import WasmScope.Failure.Report

namespace WasmScope

inductive Defect where
  | underrun (offset : Nat) (want : Int) (remaining : Nat)
  | invalidUtf8 (offset : Nat) (bytes : List UInt8)
  | invalidMagic (got : List UInt8)
  | invalidValType (offset : Nat) (tag : UInt8)
  | invalidFuncTypeTag (offset : Nat) (tag : UInt8)
  | invalidOpcode (offset : Nat) (code : UInt8)
  | unexpectedElse (offset : Nat)
  | unknownSection (offset : Nat) (id : UInt8)
  | nestingTooDeep (offset limit : Nat)
  | trailingBytes (offset count : Nat)
deriving DecidableEq, Repr

namespace Defect

def report : Defect → Report
  | underrun offset want remaining => .bufferUnderrun offset want remaining
  | invalidUtf8 offset bytes => .invalidUtf8 offset bytes
  | invalidMagic got => .invalidMagic got
  | invalidValType offset tag => .invalidValType offset tag
  | invalidFuncTypeTag offset tag => .invalidFuncTypeTag offset tag
  | invalidOpcode offset code => .invalidOpcode offset code
  | unexpectedElse offset => .unexpectedElse offset
  | unknownSection offset id => .unknownSectionId offset id
  | nestingTooDeep offset limit => .nestingTooDeep offset limit
  | trailingBytes offset count => .trailingBytes offset count

end Defect

end WasmScope
