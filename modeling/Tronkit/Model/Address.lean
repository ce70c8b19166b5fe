import Tronkit.Address
import Tronkit.Json.Reader

/-!
# Addresses in JSON

An address is written as a string in its base58 form and read in any of its forms.
-/

namespace Tronkit.Address

def reader : Json.Reader Address := Json.Reader.string.filterMap parse?

def render (a : Address) : List Char := Json.Render.string a.base58

end Tronkit.Address
