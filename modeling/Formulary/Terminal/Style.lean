import Formulary.Rule.Opcode
import Formulary.Text.Quoted
import Formulary.Text.Upper
import Formulary.Value

/-!
# Colours and glyphs

Terminal output marks what needs a second look: failed rows, rejected opcodes, suppressed writes.
A tone is the role a piece of text plays, painted in one colour of the palette when colours are on
and left alone when they are off.
-/

namespace Formulary

/-- The role of a piece of text. -/
inductive Tone where
  | pass
  | warn
  | fail
  | muted
  /-- Numbers and section titles. -/
  | accent
  /-- Jumps. -/
  | jump
deriving DecidableEq, Repr

namespace Tone

/-- The red, green and blue of the tone. -/
def colour : Tone → Nat × Nat × Nat
  | .pass => (0xC2, 0xD9, 0x4C)
  | .warn => (0xFF, 0xB4, 0x54)
  | .fail => (0xF0, 0x71, 0x78)
  | .muted => (0x6C, 0x76, 0x80)
  | .accent => (0x59, 0xC2, 0xFF)
  | .jump => (0xD2, 0xA6, 0xFF)

end Tone

/-- How text is sent to the terminal. -/
structure Style where
  coloured : Bool
deriving DecidableEq, Repr

namespace Style

/-- The control sequence with the given parameters. -/
def control (parameters : String) : String :=
  "\x1b[" ++ parameters ++ "m"

/-- The text between the sequences that set and reset the colour of a tone. -/
def tinted (tone : Tone) (s : String) : String :=
  let (r, g, b) := tone.colour
  control ("38;2;" ++ toString r ++ ";" ++ toString g ++ ";" ++ toString b) ++ s ++ control "39"

/-- The text in a tone. -/
def paint (style : Style) (tone : Tone) (s : String) : String :=
  if style.coloured then tinted tone s else s

/-- The text in a tone and bold. -/
def paintBold (style : Style) (tone : Tone) (s : String) : String :=
  if style.coloured then control "1" ++ tinted tone s ++ control "0" else s

/-- Text that is not to stand out. -/
def muted (style : Style) (s : String) : String :=
  style.paint .muted s

/-- A section title, in upper case. -/
def title (style : Style) (s : String) : String :=
  style.paintBold .accent (Text.upper s)

/-- The mark of success. -/
def passMark (style : Style) : String :=
  style.paint .pass "✓"

/-- The mark of a warning. -/
def warnMark (style : Style) : String :=
  style.paint .warn "⚠"

/-- The mark of a failure. -/
def failMark (style : Style) : String :=
  style.paint .fail "✖"

/-- A value: null muted, numbers accented, texts quoted. -/
def value (style : Style) : Value → String
  | .null => style.muted "null"
  | .number n => style.paint .accent n.toText
  | .text s => Text.quoted s

/-- A mnemonic in the tone of what the opcode does. -/
def opcode (style : Style) (op : Opcode) : String :=
  let tone := match op with
    | .jump => Tone.jump
    | .set | .push => Tone.warn
    | .result => Tone.accent
  style.paint tone op.mnemonic

/-- A mnemonic outside the instruction set. -/
def unknownOpcode (style : Style) (mnemonic : String) : String :=
  style.paintBold .fail mnemonic

end Style

end Formulary
