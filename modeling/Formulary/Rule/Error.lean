import Formulary.Rule.Opcode

/-!
# Errors of rule programs

Compiling fails on an empty row only. Every other error is found when the row in question runs, and
carries the index of that row; the step limit alone belongs to no row.
-/

namespace Formulary

/-- Why a rule program does not compile, or why a run of it fails. -/
inductive RuleError where
  | emptyRow (row : Nat)
  | unknownOpcode (row : Nat) (mnemonic : String)
  | forbiddenOpcode (row : Nat) (opcode : Opcode) (context : Context)
  | missingField (row : Nat) (field : String)
  | missingOperand (row : Nat) (opcode : Opcode) (expected found : Nat)
  | invalidOffset (row : Nat) (operand : String)
  | stepLimit (limit : Nat)
  | readOnly (row : Nat)
deriving DecidableEq, Repr

namespace RuleError

/-- The stable name of the kind of error. -/
def kind : RuleError → String
  | .emptyRow .. => "syntax"
  | .unknownOpcode .. => "unknown-opcode"
  | .forbiddenOpcode .. => "unauthorized-opcode"
  | .missingField .. => "missing-field"
  | .missingOperand .. => "missing-operand"
  | .invalidOffset .. => "invalid-offset"
  | .stepLimit .. => "step-limit-exceeded"
  | .readOnly .. => "read-only"

/-- The start of a message about a row. -/
def atRow (row : Nat) (rest : String) : String :=
  "row " ++ toString row ++ ": " ++ rest

/-- The error in words. -/
def message : RuleError → String
  | .emptyRow row => "syntax error: row " ++ toString row ++ " is empty"
  | .unknownOpcode row mnemonic => atRow row ("unknown opcode '" ++ mnemonic ++ "'")
  | .forbiddenOpcode row opcode context =>
    atRow row ("opcode '" ++ opcode.mnemonic ++ "' is not allowed in " ++ context.name ++ " context")
  | .missingField row field => atRow row ("unknown field '" ++ field ++ "'")
  | .missingOperand row opcode expected found =>
    atRow row ("'" ++ opcode.mnemonic ++ "' expects " ++ toString expected ++ " operands, found "
      ++ toString found)
  | .invalidOffset row operand =>
    atRow row ("jump offset must be an integer (got '" ++ operand ++ "')")
  | .stepLimit limit => "step limit of " ++ toString limit ++ " exceeded"
  | .readOnly row => atRow row "host is read-only"

end RuleError

end Formulary
