import TapeMachine.Machine.Console
import TapeMachine.Proofs.Text.Hexadecimal

/-! What the prompt of the console says. -/

namespace TapeMachine.Console

/-- A prompt names a position and a place of the data pointer by numerals of eight digits at least,
and the symbol of an instruction. -/
def Prompts (pos pointer : Nat) (symbol : UInt8) (text : Bytes) : Prop :=
  ∃ position place, HexNumeral 8 pos position ∧ HexNumeral 8 pointer place ∧
    text = utf8 "(brainfuck 0x" ++ position ++ utf8 ":0x" ++ place ++ utf8 ":" ++ [symbol] ++
      utf8 ") "

/-- The text of a symbol is its byte. -/
theorem utf8_symbolText (opcode : Opcode) : utf8 opcode.symbolText = [opcode.symbol] := by
  rcases opcode with action | _
  · cases action <;> rfl
  · rfl

/-- The prompt before an instruction is one for its position, the data pointer and its symbol. -/
theorem prompts_prompt (pos pointer : Nat) (opcode : Opcode) :
    Prompts pos pointer opcode.symbol (prompt pos pointer opcode) := by
  refine ⟨_, _, hexNumeral_hex8 pos, hexNumeral_hex8 pointer, ?_⟩
  -- Each address has a marker in front of its digits.
  have opening : utf8 "(brainfuck " ++ utf8 "0x" = utf8 "(brainfuck 0x" := rfl
  have between : utf8 ":" ++ utf8 "0x" = utf8 ":0x" := rfl
  simp only [prompt, address, utf8_append, utf8_symbolText, ← opening, ← between,
    List.append_assoc]

end TapeMachine.Console
