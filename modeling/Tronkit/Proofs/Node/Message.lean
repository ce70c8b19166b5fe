import Tronkit.Node.Message
import Tronkit.Proofs.Json.Restored

/-!
# Messages and their places

What a message is read as is told field by field: by the place of each field in the text, for the
text as an object and as an array. A draft and its envelope are read again from what they are
written as, if the raw data is a text that a node can have sent.
-/

namespace Tronkit.Node

open Json

open Record.Semantics (Restores)

def Draft.semantics : Record.Semantics Draft.record :=
  (((((((Record.Semantics.const Draft.mk).apply
    (.withDefault "visible" false Reader.exact_bool) (by decide)).apply
    (.withDefault "txID" "" Reader.exact_string) (by decide)).apply
    (.optional "contract_address" Reader.exact_string) (by decide)).apply
    (.optional "raw_data" Reader.exact_verbatim) (by decide)).apply
    (.withDefault "raw_data_hex" "" Reader.exact_string) (by decide)).apply
    (.withDefault "signature" [] Reader.exact_string.list) (by decide))

theorem Draft.value_eq_some {depth : Nat} {M : Places} {d : Draft} :
    Draft.semantics.value depth M = some d ↔
      ∃ v t c r h s, Reader.bool.field? depth (M "visible") = some v ∧
        Reader.string.field? depth (M "txID") = some t ∧
        (Reader.option Reader.string).field? depth (M "contract_address") = some c ∧
        (Reader.option Reader.verbatim).field? depth (M "raw_data") = some r ∧
        Reader.string.field? depth (M "raw_data_hex") = some h ∧
        (Reader.list Reader.string).field? depth (M "signature") = some s ∧
        d = ⟨v.getD false, t.getD "", c.getD none, r.getD none, h.getD "", s.getD []⟩ := by
  simp only [semantics, Record.Semantics.value_apply, Record.Semantics.value_const,
    Record.Semantics.value_optional, Record.Semantics.value_withDefault]
  constructor
  · rintro ⟨-, -, ⟨-, -, ⟨-, -, ⟨-, -, ⟨-, -, ⟨-, -, rfl, ⟨v, hv, rfl⟩, rfl⟩, ⟨t, ht, rfl⟩, rfl⟩,
      ⟨c, hc, rfl⟩, rfl⟩, ⟨r, hr, rfl⟩, rfl⟩, ⟨h, hh, rfl⟩, rfl⟩, ⟨s, hs, rfl⟩, rfl⟩
    exact ⟨v, t, c, r, h, s, hv, ht, hc, hr, hh, hs, rfl⟩
  · rintro ⟨v, t, c, r, h, s, hv, ht, hc, hr, hh, hs, rfl⟩
    exact ⟨_, _, ⟨_, _, ⟨_, _, ⟨_, _, ⟨_, _, ⟨_, _, rfl, ⟨v, hv, rfl⟩, rfl⟩, ⟨t, ht, rfl⟩, rfl⟩,
      ⟨c, hc, rfl⟩, rfl⟩, ⟨r, hr, rfl⟩, rfl⟩, ⟨h, hh, rfl⟩, rfl⟩, ⟨s, hs, rfl⟩, rfl⟩

namespace Draft

/-- The raw data is a text that can stand in an answer of a node. -/
def RawKept (d : Draft) : Prop := ∀ s, d.rawData = some s → IsRaw s

def writtenSignature (d : Draft) : Option (List Char) :=
  if d.signature = [] then none else some (Render.array (d.signature.map Render.string))

def members (d : Draft) : List (String × List Char) :=
  Render.optional "visible" (some (Render.bool d.visible))
    ++ Render.optional "txID" (nonempty d.txId)
    ++ Render.optional "contract_address" (d.contractAddress.map Render.string)
    ++ Render.optional "raw_data" (d.rawData.map String.toList)
    ++ Render.optional "raw_data_hex" (nonempty d.rawDataHex)
    ++ Render.optional "signature" d.writtenSignature

theorem render_eq (d : Draft) : d.render = Render.object d.members := by
  rw [render, members, writtenSignature]
  split <;> rfl

theorem nonempty_eq_some {s : String} {text : List Char} (h : nonempty s = some text) :
    text = Render.string s := by
  unfold nonempty at h
  split at h
  · cases h
  · cases h
    rfl

theorem writtenSignature_eq_some {d : Draft} {text : List Char}
    (h : d.writtenSignature = some text) : text = Render.array (d.signature.map Render.string) := by
  unfold writtenSignature at h
  split at h
  · cases h
  · cases h
    rfl

theorem restores_nonempty {name : String} (s : String) (depth : Nat) :
    (Record.Semantics.withDefault name "" Reader.exact_string).Restores depth
      (Render.optional name (nonempty s)) s := by
  refine .leftOut (fun hnone => ?_) fun text htext => ?_
  · unfold nonempty at hnone
    split at hnone
    · rename_i hs
      exact hs.symm
    · cases hnone
  · obtain rfl := nonempty_eq_some htext
    exact reads_string depth s

theorem restores_writtenSignature (d : Draft) (depth : Nat) :
    (Record.Semantics.withDefault "signature" [] Reader.exact_string.list).Restores (depth + 1)
      (Render.optional "signature" d.writtenSignature) d.signature := by
  refine .leftOut (fun hnone => ?_) fun text htext => ?_
  · unfold writtenSignature at hnone
    split at hnone
    · rename_i hs
      exact hs.symm
    · cases hnone
  · obtain rfl := writtenSignature_eq_some htext
    exact reads_list Reader.exact_string fun s _ => reads_string depth s

theorem restores_members {d : Draft} (h : d.RawKept) (depth : Nat) :
    semantics.Restores (depth + 1) d.members d :=
  ((((((Restores.const _).apply (.withDefault (reads_bool _ d.visible))).apply
    (restores_nonempty d.txId _)).apply
    (.optional (fun s _ => isPresent_string s) fun s _ => reads_string _ s)).apply
    (.optional (fun s hs => (h s hs).2) fun s hs => reads_verbatim (h s hs) _)).apply
    (restores_nonempty d.rawDataHex _)).apply (restores_writtenSignature d depth)

theorem field?_of_nonempty {s : String} {place : Option Bytes} (h : Standing (nonempty s) place)
    (depth : Nat) :
    Reader.string.field? depth place = some (if s = "" then none else some s) := by
  unfold nonempty at h
  split at h
  · rename_i hs
    rw [if_pos hs, h.field?_none]
  · rename_i hs
    rw [if_neg hs, h.field?_some (reads_string depth s)]

theorem field?_of_writtenSignature {d : Draft} {place : Option Bytes}
    (h : Standing d.writtenSignature place) (depth : Nat) :
    (Reader.list Reader.string).field? (depth + 1) place =
      some (if d.signature = [] then none else some d.signature) := by
  unfold writtenSignature at h
  split at h
  · rename_i hs
    rw [if_pos hs, h.field?_none]
  · rename_i hs
    have hreads := reads_list Reader.exact_string
      fun s (_ : s ∈ d.signature) => reads_string depth s
    rw [if_neg hs, h.field?_some hreads]

theorem standing_members {d : Draft} {M : Places}
    (hM : ∀ k, Standing (d.members.lookup k) (M k)) :
    Standing (some (Render.bool d.visible)) (M "visible") ∧
      Standing (nonempty d.txId) (M "txID") ∧
      Standing (d.contractAddress.map Render.string) (M "contract_address") ∧
      Standing (d.rawData.map String.toList) (M "raw_data") ∧
      Standing (nonempty d.rawDataHex) (M "raw_data_hex") ∧
      Standing d.writtenSignature (M "signature") := by
  refine ⟨?_, ?_, ?_, ?_, ?_, ?_⟩
  · simpa [members, List.lookup_append] using hM "visible"
  · simpa [members, List.lookup_append] using hM "txID"
  · simpa [members, List.lookup_append] using hM "contract_address"
  · simpa [members, List.lookup_append] using hM "raw_data"
  · simpa [members, List.lookup_append] using hM "raw_data_hex"
  · simpa [members, List.lookup_append] using hM "signature"

theorem reads_render {d : Draft} (h : d.RawKept) (depth : Nat) :
    record.reader.Reads (depth + 2) d.render d := by
  rw [render_eq]
  exact (restores_members h depth).reads

/-- The body is an object that holds the draft under its keys, the raw data byte for byte, and has
no other key; what is empty or missing has no key. -/
structure StandsIn (d : Draft) (body : Bytes) : Prop where
  whole : Passes none body []
  keys : ∃ keys, keys? body = some keys ∧ keys.Sublist
    ["visible", "txID", "contract_address", "raw_data", "raw_data_hex", "signature"]
  visible : Reader.bool.field? 0 (fieldAt? "visible" 0 body) = some (some d.visible)
  txId : Reader.string.field? 0 (fieldAt? "txID" 1 body) =
    some (if d.txId = "" then none else some d.txId)
  contractAddress : Reader.string.field? 0 (fieldAt? "contract_address" 2 body) =
    some d.contractAddress
  rawData : (fieldAt? "raw_data" 3 body).map valueText? =
    d.rawData.map fun s => some (textBytes s)
  rawDataHex : Reader.string.field? 0 (fieldAt? "raw_data_hex" 4 body) =
    some (if d.rawDataHex = "" then none else some d.rawDataHex)
  signature : (Reader.list Reader.string).field? 1 (fieldAt? "signature" 5 body) =
    some (if d.signature = [] then none else some d.signature)

theorem standsIn_render {d : Draft} (h : d.RawKept) : d.StandsIn (Utf8.encode d.render) := by
  have hwritten : ∀ m ∈ d.members, Written m.2 :=
    fun m hm => ((restores_members h 0).suits m hm).written
  -- An object is written, so the index of a field plays no part.
  have hplace : ∀ index key, Standing (d.members.lookup key)
      (fieldAt? key index (Utf8.encode d.render)) := by
    intro index key
    rw [render_eq]
    exact standing_object hwritten key index
  have hwhole : Passes none (Utf8.encode d.render) [] := by
    rw [render_eq]
    exact passes_object hwritten
  have hkeys : keys? (Utf8.encode d.render) = some (d.members.map Prod.fst) := by
    rw [render_eq]
    exact keys?_object hwritten
  obtain ⟨hvisible, -⟩ := standing_members (hplace 0)
  obtain ⟨-, htxId, -⟩ := standing_members (hplace 1)
  obtain ⟨-, -, hcontract, -⟩ := standing_members (hplace 2)
  obtain ⟨-, -, -, hraw, -⟩ := standing_members (hplace 3)
  obtain ⟨-, -, -, -, hhex, -⟩ := standing_members (hplace 4)
  obtain ⟨-, -, -, -, -, hsignature⟩ := standing_members (hplace 5)
  refine ⟨hwhole, ⟨_, hkeys, (restores_members h 0).keys⟩,
    hvisible.field?_some (reads_bool 0 _), field?_of_nonempty htxId 0, ?_,
    ?_, field?_of_nonempty hhex 0, field?_of_writtenSignature hsignature 0⟩
  · cases hc : d.contractAddress with
    | none =>
      rw [hc] at hcontract
      exact hcontract.field?_none
    | some s =>
      rw [hc] at hcontract
      exact hcontract.field?_some (reads_string 0 s)
  · cases hr : d.rawData with
    | none =>
      rw [hr] at hraw
      rw [hraw.eq_none]
      rfl
    | some s =>
      rw [hr] at hraw
      exact hraw.map_valueText? (h s hr)

theorem parse_render {d : Draft} (h : d.RawKept) :
    Json.parse record.reader (Utf8.encode d.render) = .ok d := (reads_render h 125).parse

end Draft

/-- A transaction has the fields that stand at the given places of a text: the bytes of the raw
data as they are, and the defaults for what is missing. -/
structure Draft.StandsAt (d : Draft) (M : Places) : Prop where
  visible : (Reader.bool.field? 0 (M "visible")).map (·.getD false) = some d.visible
  txId : (Reader.string.field? 0 (M "txID")).map (·.getD "") = some d.txId
  rawData : KeptAt (M "raw_data") d.rawData
  rawDataHex : (Reader.string.field? 0 (M "raw_data_hex")).map (·.getD "") = some d.rawDataHex

open Record.Semantics (placesIn)

theorem field?_bool {depth : Nat} {place : Option Bytes} :
    Reader.bool.field? depth place = Reader.bool.field? 0 place := by
  cases place <;> rfl

theorem field?_string {depth : Nat} {place : Option Bytes} :
    Reader.string.field? depth place = Reader.string.field? 0 place := by
  cases place <;> rfl

theorem field?_optionString {depth : Nat} {place : Option Bytes} :
    (Reader.option Reader.string).field? depth place =
      (Reader.option Reader.string).field? 0 place := by
  cases place <;> rfl

def ContractAt (M : Places) (address : Option String) : Prop :=
  ((Reader.option Reader.string).field? 0 (M "contract_address")).map (·.getD none) = some address

def Draft.IsAt (d : Draft) (place : Bytes) : Prop :=
  d.StandsAt (placesIn Draft.record place) ∧
    ContractAt (placesIn Draft.record place) d.contractAddress

theorem Draft.isAt_of_reader {depth : Nat} {bs rest : Bytes} {d : Draft}
    (h : Draft.record.reader (depth + 1) bs = .ok (d, rest)) : d.IsAt bs ∧ d.RawKept := by
  obtain ⟨v, t, c, r, x, s, hv, ht, hc, hr, hx, -, rfl⟩ :=
    Draft.value_eq_some.1 (Draft.semantics.reader_ok h).2
  obtain ⟨hraw, hkept⟩ := field?_verbatim hr
  rw [field?_bool] at hv
  rw [field?_string] at ht hx
  rw [field?_optionString] at hc
  refine ⟨⟨⟨?_, ?_, hraw, ?_⟩, ?_⟩, hkept⟩
  · rw [hv, Option.map_some]
  · rw [ht, Option.map_some]
  · rw [hx, Option.map_some]
  · rw [ContractAt, hc, Option.map_some]

/-! ## Envelopes -/

def Envelope.semantics : Record.Semantics Envelope.record :=
  ((Record.Semantics.const Envelope.mk).apply
    (.required "transaction" Draft.semantics.exact_reader) (by decide)).apply
    (.required "txID" Reader.exact_string) (by decide)

theorem Envelope.reads_render {e : Envelope} (h : e.transaction.RawKept) (depth : Nat) :
    Envelope.record.reader.Reads (depth + 3) e.render e := by
  have htransaction := Draft.reads_render h depth
  have hrestores : semantics.Restores (depth + 2) _ e :=
    ((Restores.const _).apply (.required htransaction)).apply (.required (reads_string _ e.txId))
  exact hrestores.reads

theorem Envelope.parse_render {e : Envelope} (h : e.transaction.RawKept) :
    Json.parse Envelope.record.reader (Utf8.encode e.render) = .ok e :=
  (Envelope.reads_render h 124).parse

/-! ## Answers with a transaction -/

def ResultMessage.semantics : Record.Semantics ResultMessage.record :=
  (((Record.Semantics.const ResultMessage.mk).apply
    (.withDefault "result" false Reader.exact_bool) (by decide)).apply
    (.optional "code" Reader.exact_string) (by decide)).apply
    (.optional "message" Reader.exact_string) (by decide)

def TriggerAnswer.semantics : Record.Semantics TriggerAnswer.record :=
  ((Record.Semantics.const TriggerAnswer.mk).apply
    (.withDefault "result" ResultMessage.none ResultMessage.semantics.exact_reader)
      (by decide)).apply
    (.optional "transaction" Draft.semantics.exact_reader) (by decide)

def DeployAnswer.semantics : Record.Semantics DeployAnswer.record :=
  (((((Record.Semantics.const DeployAnswer.mk).apply
    (.withDefault "txID" "" Reader.exact_string) (by decide)).apply
    (.withDefault "contract_address" "" Reader.exact_string) (by decide)).apply
    (.optional "raw_data" Reader.exact_verbatim) (by decide)).apply
    (.withDefault "raw_data_hex" "" Reader.exact_string) (by decide)).apply
    (.withDefault "visible" false Reader.exact_bool) (by decide)

theorem ResultMessage.value_eq_some {depth : Nat} {M : Places} {m : ResultMessage} :
    ResultMessage.semantics.value depth M = some m ↔
      ∃ r c t, Reader.bool.field? depth (M "result") = some r ∧
        (Reader.option Reader.string).field? depth (M "code") = some c ∧
        (Reader.option Reader.string).field? depth (M "message") = some t ∧
        m = ⟨r.getD false, c.getD .none, t.getD .none⟩ := by
  simp only [semantics, Record.Semantics.value_apply, Record.Semantics.value_const,
    Record.Semantics.value_optional, Record.Semantics.value_withDefault]
  constructor
  · rintro ⟨-, -, ⟨-, -, ⟨-, -, rfl, ⟨r, hr, rfl⟩, rfl⟩, ⟨c, hc, rfl⟩, rfl⟩, ⟨t, ht, rfl⟩, rfl⟩
    exact ⟨r, c, t, hr, hc, ht, rfl⟩
  · rintro ⟨r, c, t, hr, hc, ht, rfl⟩
    exact ⟨_, _, ⟨_, _, ⟨_, _, rfl, ⟨r, hr, rfl⟩, rfl⟩, ⟨c, hc, rfl⟩, rfl⟩, ⟨t, ht, rfl⟩, rfl⟩

theorem TriggerAnswer.value_eq_some {depth : Nat} {M : Places} {a : TriggerAnswer} :
    TriggerAnswer.semantics.value depth M = some a ↔
      ∃ r t, ResultMessage.record.reader.field? depth (M "result") = some r ∧
        (Reader.option Draft.record.reader).field? depth (M "transaction") = some t ∧
        a = ⟨r.getD .none, t.getD none⟩ := by
  simp only [semantics, Record.Semantics.value_apply, Record.Semantics.value_const,
    Record.Semantics.value_optional, Record.Semantics.value_withDefault]
  constructor
  · rintro ⟨-, -, ⟨-, -, rfl, ⟨r, hr, rfl⟩, rfl⟩, ⟨t, ht, rfl⟩, rfl⟩
    exact ⟨r, t, hr, ht, rfl⟩
  · rintro ⟨r, t, hr, ht, rfl⟩
    exact ⟨_, _, ⟨_, _, rfl, ⟨r, hr, rfl⟩, rfl⟩, ⟨t, ht, rfl⟩, rfl⟩

theorem DeployAnswer.value_eq_some {depth : Nat} {M : Places} {a : DeployAnswer} :
    DeployAnswer.semantics.value depth M = some a ↔
      ∃ t c r h v, Reader.string.field? depth (M "txID") = some t ∧
        Reader.string.field? depth (M "contract_address") = some c ∧
        (Reader.option Reader.verbatim).field? depth (M "raw_data") = some r ∧
        Reader.string.field? depth (M "raw_data_hex") = some h ∧
        Reader.bool.field? depth (M "visible") = some v ∧
        a = ⟨t.getD "", c.getD "", r.getD none, h.getD "", v.getD false⟩ := by
  simp only [semantics, Record.Semantics.value_apply, Record.Semantics.value_const,
    Record.Semantics.value_optional, Record.Semantics.value_withDefault]
  constructor
  · rintro ⟨-, -, ⟨-, -, ⟨-, -, ⟨-, -, ⟨-, -, rfl, ⟨t, ht, rfl⟩, rfl⟩, ⟨c, hc, rfl⟩, rfl⟩,
      ⟨r, hr, rfl⟩, rfl⟩, ⟨h, hh, rfl⟩, rfl⟩, ⟨v, hv, rfl⟩, rfl⟩
    exact ⟨t, c, r, h, v, ht, hc, hr, hh, hv, rfl⟩
  · rintro ⟨t, c, r, h, v, ht, hc, hr, hh, hv, rfl⟩
    exact ⟨_, _, ⟨_, _, ⟨_, _, ⟨_, _, ⟨_, _, rfl, ⟨t, ht, rfl⟩, rfl⟩, ⟨c, hc, rfl⟩, rfl⟩,
      ⟨r, hr, rfl⟩, rfl⟩, ⟨h, hh, rfl⟩, rfl⟩, ⟨v, hv, rfl⟩, rfl⟩

theorem Draft.isAt_of_parse {body : Bytes} {d : Draft}
    (h : Json.parse Draft.record.reader body = .ok d) : d.IsAt body ∧ d.RawKept := by
  obtain ⟨rest, hread, -⟩ := parse_eq_ok_iff.1 h
  have hread' : Draft.record.reader (126 + 1) body = .ok (d, rest) := hread
  exact Draft.isAt_of_reader hread'

theorem TriggerAnswer.isAt_of_parse {body : Bytes} {a : TriggerAnswer} {d : Draft}
    (h : Json.parse TriggerAnswer.record.reader body = .ok a) (hd : a.transaction = some d) :
    ∃ place, fieldAt? "transaction" 1 body = some place ∧ d.IsAt place ∧ d.RawKept := by
  obtain ⟨rest, hread, -⟩ := parse_eq_ok_iff.1 h
  have hread' : TriggerAnswer.record.reader (126 + 1) body = .ok (a, rest) := hread
  obtain ⟨r, t, -, ht, rfl⟩ :=
    TriggerAnswer.value_eq_some.1 (TriggerAnswer.semantics.reader_ok hread').2
  have hplace : placesIn TriggerAnswer.record body "transaction" = fieldAt? "transaction" 1 body :=
    rfl
  rw [hplace] at ht
  cases hfield : fieldAt? "transaction" 1 body with
  | none =>
    rw [hfield] at ht
    cases ht
    cases hd
  | some place =>
    rw [hfield] at ht
    obtain ⟨x, hx, rfl⟩ := Option.map_eq_some_iff.1 ht
    obtain rfl : x = some d := hd
    obtain ⟨rest', hoption⟩ := Reader.front?_eq_some hx
    -- The transaction is read behind the blanks, where its fields have the same places.
    have hdraft : Draft.record.reader (125 + 1) (skipBlanks place) = .ok (d, rest') :=
      Reader.option_eq_some hoption
    have hplaces : placesIn Draft.record (skipBlanks place) = placesIn Draft.record place :=
      funext fun key => fieldAt?_skipBlanks key _ place
    have hisAt := Draft.isAt_of_reader hdraft
    rw [Draft.IsAt, hplaces] at hisAt
    exact ⟨place, rfl, hisAt⟩

theorem TriggerAnswer.result_of_parse {body place : Bytes} {a : TriggerAnswer}
    (h : Json.parse TriggerAnswer.record.reader body = .ok a)
    (hplace : fieldAt? "result" 0 body = some place) :
    (Reader.bool.field? 0 (fieldAt? "result" 0 place)).map (·.getD false) =
      some a.result.result := by
  obtain ⟨rest, hread, -⟩ := parse_eq_ok_iff.1 h
  have hread' : TriggerAnswer.record.reader (126 + 1) body = .ok (a, rest) := hread
  obtain ⟨r, t, hr, -, rfl⟩ :=
    TriggerAnswer.value_eq_some.1 (TriggerAnswer.semantics.reader_ok hread').2
  have hfield : placesIn TriggerAnswer.record body "result" = some place := hplace
  rw [hfield] at hr
  obtain ⟨m, hm, rfl⟩ := Option.map_eq_some_iff.1 hr
  obtain ⟨rest', hmessage⟩ := Reader.front?_eq_some hm
  have hmessage' : ResultMessage.record.reader (125 + 1) place = .ok (m, rest') := hmessage
  obtain ⟨v, c, t', hv, -, -, rfl⟩ :=
    ResultMessage.value_eq_some.1 (ResultMessage.semantics.reader_ok hmessage').2
  have hflag : placesIn ResultMessage.record place "result" = fieldAt? "result" 0 place := rfl
  rw [hflag, field?_bool] at hv
  rw [hv]
  rfl

theorem DeployAnswer.standsAt_of_parse {body : Bytes} {a : DeployAnswer} {d : Draft}
    (h : Json.parse DeployAnswer.record.reader body = .ok a) (hvisible : d.visible = a.visible)
    (htxId : d.txId = a.txId) (hraw : d.rawData = a.rawData) (hhex : d.rawDataHex = a.rawDataHex) :
    d.StandsAt (placesIn DeployAnswer.record body) ∧
      (Reader.string.field? 0 (placesIn DeployAnswer.record body "contract_address")).map
        (·.getD "") = some a.contractAddress ∧ d.RawKept := by
  obtain ⟨rest, hread, -⟩ := parse_eq_ok_iff.1 h
  have hread' : DeployAnswer.record.reader (126 + 1) body = .ok (a, rest) := hread
  obtain ⟨t, c, r, x, v, ht, hc, hr, hx, hv, rfl⟩ :=
    DeployAnswer.value_eq_some.1 (DeployAnswer.semantics.reader_ok hread').2
  obtain ⟨htext, hkept⟩ := field?_verbatim hr
  rw [field?_string] at ht hc hx
  rw [field?_bool] at hv
  refine ⟨⟨?_, ?_, ?_, ?_⟩, ?_, ?_⟩
  · rw [hv, hvisible, Option.map_some]
  · rw [ht, htxId, Option.map_some]
  · rw [hraw]
    exact htext
  · rw [hx, hhex, Option.map_some]
  · rw [hc, Option.map_some]
  · intro s hs
    rw [hraw] at hs
    exact hkept s hs

end Tronkit.Node
