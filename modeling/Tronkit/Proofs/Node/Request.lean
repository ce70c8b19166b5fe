import Tronkit.Node.Request
import Tronkit.Proofs.Json.Natural

/-!
# Requests as their reader finds them

The body of a request is one value, and each of its fields is found under its key, whatever the
texts and however large the amounts are. So no two requests of one kind have the same body.
-/

namespace Tronkit.Node

open Json

/-- The body is an object that holds the request under its keys, the amount as bare digits, and
has no other key. -/
structure TransferRequest.StandsIn (r : TransferRequest) (body : Bytes) : Prop where
  whole : Passes none body []
  keys : keys? body = some ["owner_address", "to_address", "amount", "visible"]
  owner : Reader.string.field? 0 (fieldAt? "owner_address" 0 body) = some (some r.owner)
  recipient : Reader.string.field? 0 (fieldAt? "to_address" 1 body) = some (some r.recipient)
  amount : (fieldAt? "amount" 2 body).map valueText? =
    some (some (textBytes (decimalText r.amount)))
  visible : Reader.bool.field? 0 (fieldAt? "visible" 3 body) = some (some r.visible)

namespace TransferRequest

def members (r : TransferRequest) : List (String × List Char) :=
  [("owner_address", Render.string r.owner), ("to_address", Render.string r.recipient),
    ("amount", Render.natural r.amount), ("visible", Render.bool r.visible)]

theorem written_members (r : TransferRequest) : ∀ m ∈ r.members, Written m.2 := by
  simp [members]

theorem standsIn_render (r : TransferRequest) : r.StandsIn (Utf8.encode r.render) := by
  have hplace : ∀ key index, Standing (r.members.lookup key)
      (fieldAt? key index (Utf8.encode r.render)) := standing_object r.written_members
  have howner : Standing (some (Render.string r.owner)) _ := hplace "owner_address" 0
  have hrecipient : Standing (some (Render.string r.recipient)) _ := hplace "to_address" 1
  have hamount : Standing (some (decimalText r.amount).toList) _ := hplace "amount" 2
  have hvisible : Standing (some (Render.bool r.visible)) _ := hplace "visible" 3
  exact ⟨passes_object r.written_members, keys?_object r.written_members,
    howner.field?_some (reads_string _ _), hrecipient.field?_some (reads_string _ _),
    hamount.map_valueText? (isRaw_decimalText r.amount), hvisible.field?_some (reads_bool _ _)⟩

theorem StandsIn.unique {r r' : TransferRequest} {body : Bytes} (h : r.StandsIn body)
    (h' : r'.StandsIn body) : r = r' := by
  obtain ⟨owner, recipient, amount, visible⟩ := r
  obtain ⟨owner', recipient', amount', visible'⟩ := r'
  obtain rfl : owner = owner' := by simpa using h.owner.symm.trans h'.owner
  obtain rfl : recipient = recipient' := by simpa using h.recipient.symm.trans h'.recipient
  obtain rfl : visible = visible' := by simpa using h.visible.symm.trans h'.visible
  have htext : textBytes (decimalText amount) = textBytes (decimalText amount') := by
    simpa using h.amount.symm.trans h'.amount
  rw [decimalText_injective (textBytes_injective htext)]

end TransferRequest

/-- The body is an object that holds the request under its keys, the limit of the fee as bare
digits, and has no other key. -/
structure TriggerRequest.StandsIn (r : TriggerRequest) (body : Bytes) : Prop where
  whole : Passes none body []
  keys : keys? body =
    some (["owner_address", "contract_address", "function_selector", "parameter", "visible"] ++
      r.feeLimit.toList.map fun _ => "fee_limit")
  owner : Reader.string.field? 0 (fieldAt? "owner_address" 0 body) = some (some r.owner)
  contract : Reader.string.field? 0 (fieldAt? "contract_address" 1 body) = some (some r.contract)
  selector : Reader.string.field? 0 (fieldAt? "function_selector" 2 body) = some (some r.selector)
  parameter : Reader.string.field? 0 (fieldAt? "parameter" 3 body) = some (some r.parameter)
  visible : Reader.bool.field? 0 (fieldAt? "visible" 4 body) = some (some r.visible)
  feeLimit : (fieldAt? "fee_limit" 5 body).map valueText? =
    r.feeLimit.map fun n => some (textBytes (decimalText n))

namespace TriggerRequest

def members (r : TriggerRequest) : List (String × List Char) :=
  [("owner_address", Render.string r.owner), ("contract_address", Render.string r.contract),
    ("function_selector", Render.string r.selector), ("parameter", Render.string r.parameter),
    ("visible", Render.bool r.visible)]
    ++ Render.optional "fee_limit" (r.feeLimit.map Render.natural)

theorem written_members (r : TriggerRequest) : ∀ m ∈ r.members, Written m.2 := by
  have hfee : ∀ m ∈ Render.optional "fee_limit" (r.feeLimit.map Render.natural), Written m.2 := by
    intro m hm
    obtain ⟨n, -, hn⟩ := Option.map_eq_some_iff.1 (mem_optional.1 hm).2
    rw [← hn]
    exact written_natural n
  simpa [members, or_imp, forall_and] using hfee

theorem keys_members (r : TriggerRequest) : r.members.map Prod.fst =
    ["owner_address", "contract_address", "function_selector", "parameter", "visible"] ++
      r.feeLimit.toList.map fun _ => "fee_limit" := by
  unfold members
  cases r.feeLimit <;> rfl

theorem standsIn_render (r : TriggerRequest) : r.StandsIn (Utf8.encode r.render) := by
  have hplace : ∀ key index, Standing (r.members.lookup key)
      (fieldAt? key index (Utf8.encode r.render)) := standing_object r.written_members
  have howner : Standing (some (Render.string r.owner)) _ := hplace "owner_address" 0
  have hcontract : Standing (some (Render.string r.contract)) _ := hplace "contract_address" 1
  have hselector : Standing (some (Render.string r.selector)) _ := hplace "function_selector" 2
  have hparameter : Standing (some (Render.string r.parameter)) _ := hplace "parameter" 3
  have hvisible : Standing (some (Render.bool r.visible)) _ := hplace "visible" 4
  have hfee : Standing (r.feeLimit.map Render.natural)
      (fieldAt? "fee_limit" 5 (Utf8.encode r.render)) := by
    simpa [members, List.lookup_append, List.lookup_cons] using hplace "fee_limit" 5
  refine ⟨passes_object r.written_members, r.keys_members ▸ keys?_object r.written_members,
    howner.field?_some (reads_string _ _), hcontract.field?_some (reads_string _ _),
    hselector.field?_some (reads_string _ _), hparameter.field?_some (reads_string _ _),
    hvisible.field?_some (reads_bool _ _), ?_⟩
  cases hlimit : r.feeLimit with
  | none =>
    rw [hlimit] at hfee
    rw [hfee.eq_none]
    rfl
  | some n =>
    rw [hlimit] at hfee
    exact hfee.map_valueText? (isRaw_decimalText n)

theorem StandsIn.unique {r r' : TriggerRequest} {body : Bytes} (h : r.StandsIn body)
    (h' : r'.StandsIn body) : r = r' := by
  obtain ⟨owner, contract, selector, parameter, visible, feeLimit⟩ := r
  obtain ⟨owner', contract', selector', parameter', visible', feeLimit'⟩ := r'
  obtain rfl : owner = owner' := by simpa using h.owner.symm.trans h'.owner
  obtain rfl : contract = contract' := by simpa using h.contract.symm.trans h'.contract
  obtain rfl : selector = selector' := by simpa using h.selector.symm.trans h'.selector
  obtain rfl : parameter = parameter' := by simpa using h.parameter.symm.trans h'.parameter
  obtain rfl : visible = visible' := by simpa using h.visible.symm.trans h'.visible
  have hinjective : Function.Injective fun n => some (textBytes (decimalText n)) := fun m n hmn =>
    decimalText_injective (textBytes_injective (Option.some.inj hmn))
  have hlimit : feeLimit = feeLimit' :=
    Option.map_injective hinjective (h.feeLimit.symm.trans h'.feeLimit)
  rw [hlimit]

end TriggerRequest
end Tronkit.Node
