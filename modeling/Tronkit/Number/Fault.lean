import Tronkit.Text.Hex

/-!
# Faults of number texts

Why a text is not the number or the byte string that it was taken for, and the words for it.
-/

namespace Tronkit

inductive NumberError
  | invalidQuantity (text : String) (fault : IntegerFault)
  | emptyNumber
  | invalidNumber (text : String)
  | invalidBytes (text : String) (fault : HexFault)
  | tooWide (n : Nat)
  | unreadable (text : String)
  | notUnsigned (text : String)
  | described (text : String)
  deriving Repr, DecidableEq

def NumberError.message : NumberError → String
  | invalidQuantity s fault => "Invalid hex quantity '" ++ s ++ "': " ++ fault.message
  | emptyNumber => "Empty hex string"
  | invalidNumber s => "Invalid hex string: " ++ s
  | invalidBytes s fault => "Invalid hex '" ++ s ++ "': " ++ fault.message
  | tooWide n => decimalText n ++ " does not fit into 256 bits"
  | unreadable s => "Cannot parse " ++ s
  | notUnsigned s => "'" ++ s ++ "' is not an unsigned integer"
  | described s => s

end Tronkit
