import Tronkit.Abi.Interface
import Tronkit.Json.Value

/-!
# Standard interfaces

The functions of a TRC-20 token, and the events that tokens emit. Both interfaces come with the text
that declares them; `parse_tokenText` and `parse_eventsText` say that the texts are read as them.
-/

namespace Tronkit.Standard

def tokenName : String := "trc20"

def eventsName : String := "standard_events"

def inputs (ps : List (String × AbiType)) : List AbiParameter := ps.map fun (n, t) => ⟨n, t⟩

def results (ts : List AbiType) : List AbiParameter := ts.map fun t => ⟨"", t⟩

def totalSupply : AbiFunction := ⟨"totalSupply", [], results [.uint 256]⟩

def balanceOf : AbiFunction :=
  ⟨"balanceOf", inputs [("account", .address)], results [.uint 256]⟩

def allowance : AbiFunction :=
  ⟨"allowance", inputs [("owner", .address), ("spender", .address)], results [.uint 256]⟩

def symbol : AbiFunction := ⟨"symbol", [], results [.string]⟩

def decimals : AbiFunction := ⟨"decimals", [], results [.uint 8]⟩

def approve : AbiFunction :=
  ⟨"approve", inputs [("spender", .address), ("value", .uint 256)], results [.bool]⟩

def transferFrom : AbiFunction :=
  ⟨"transferFrom", inputs [("from", .address), ("to", .address), ("value", .uint 256)],
    results [.bool]⟩

def transfer : AbiFunction :=
  ⟨"transfer", inputs [("_to", .address), ("_value", .uint 256)], []⟩

def token : Interface :=
  ⟨[totalSupply, balanceOf, allowance, symbol, decimals, approve, transferFrom, transfer], []⟩

def transferEvent : AbiEvent :=
  ⟨"Transfer", [⟨"from", .address, true⟩, ⟨"to", .address, true⟩, ⟨"value", .uint 256, false⟩],
    false⟩

def approvalEvent : AbiEvent :=
  ⟨"Approval",
    [⟨"owner", .address, true⟩, ⟨"spender", .address, true⟩, ⟨"value", .uint 256, false⟩], false⟩

def approvalForAllEvent : AbiEvent :=
  ⟨"ApprovalForAll",
    [⟨"owner", .address, true⟩, ⟨"operator", .address, true⟩, ⟨"approved", .bool, false⟩], false⟩

def events : Interface := ⟨[], [transferEvent, approvalEvent, approvalForAllEvent]⟩

/-! ## Declarations -/

def typed (name type : String) : List (String × Json) :=
  [("name", .string name), ("type", .string type)]

def parameterEntry (name type : String) : Json :=
  .object (("internalType", .string type) :: typed name type)

def functionEntry (name : String) (inputs : List (String × String)) (result mutability : String) :
    Json :=
  .object [("inputs", .array (inputs.map fun p => parameterEntry p.1 p.2)),
    ("name", .string name), ("outputs", .array [parameterEntry "" result]),
    ("stateMutability", .string mutability), ("type", .string "function")]

/-- The transfer is declared in an older form and without a result. -/
def transferEntry : Json :=
  .object [("constant", .bool false),
    ("inputs", .array [.object (typed "_to" "address"), .object (typed "_value" "uint256")]),
    ("name", .string "transfer"), ("outputs", .array []), ("payable", .bool false),
    ("stateMutability", .string "nonpayable"), ("type", .string "function")]

def indexedEntry (indexed : Bool) (name type : String) : Json :=
  .object (("indexed", .bool indexed) :: typed name type)

def eventEntry (name : String) (inputs : List (Bool × String × String)) : Json :=
  .object [("anonymous", .bool false),
    ("inputs", .array (inputs.map fun p => indexedEntry p.1 p.2.1 p.2.2)),
    ("name", .string name), ("type", .string "event")]

def tokenEntries : List Json :=
  [functionEntry "totalSupply" [] "uint256" "view",
    functionEntry "balanceOf" [("account", "address")] "uint256" "view",
    functionEntry "allowance" [("owner", "address"), ("spender", "address")] "uint256" "view",
    functionEntry "symbol" [] "string" "view",
    functionEntry "decimals" [] "uint8" "view",
    functionEntry "approve" [("spender", "address"), ("value", "uint256")] "bool" "nonpayable",
    functionEntry "transferFrom"
      [("from", "address"), ("to", "address"), ("value", "uint256")] "bool" "nonpayable",
    transferEntry]

def eventsEntries : List Json :=
  [eventEntry "Transfer"
      [(true, "from", "address"), (true, "to", "address"), (false, "value", "uint256")],
    eventEntry "Approval"
      [(true, "owner", "address"), (true, "spender", "address"), (false, "value", "uint256")],
    eventEntry "ApprovalForAll"
      [(true, "owner", "address"), (true, "operator", "address"), (false, "approved", "bool")]]

def indent : List Char := "\n    ".toList

def ending : List Char := "\n]".toList

/-- A list with each entry on a line of its own. -/
def listing (entries : List Json) : List Char :=
  '[' :: Json.Render.separated (entries.map fun v => indent ++ v.render) ++ ending

def tokenText : String := String.ofList (listing tokenEntries)

def eventsText : String := String.ofList (listing eventsEntries)

end Tronkit.Standard
