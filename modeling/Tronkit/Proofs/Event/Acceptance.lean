import Tronkit.Proofs.Event.Decoders

/-!
# Which logs are token events

A log of a block is accepted if it has the form of a standard event, and then its topics and its data
are the fields of the event. Every other log is refused: one of an unknown event, one with more or
fewer topics, such as the transfer of a single piece, and one without a word of data.
-/

namespace Tronkit.TokenEvent

/-- Three topics, of which the first is the id of a standard event, and a word of data, which for an
approval of everything is a single byte behind zeros. -/
structure HasForm (topics : List Bytes) (data : Bytes) : Prop where
  topics : ∃ id first second, topics = [id, first, second] ∧
    (id = Standard.transferEvent.id ∨ id = Standard.approvalEvent.id ∨
      id = Standard.approvalForAllEvent.id ∧ data.take 31 = Bytes.zeros 31)
  size : 32 ≤ data.length

def HasWord : TokenEvent → Bytes → Prop
  | transfer _ _ _ v, data | approval _ _ _ v, data => v = Bytes.toNat (data.take 32)
  | approvalForAll _ _ _ approved, data =>
    data.take 31 = Bytes.zeros 31 ∧ (approved = true ↔ data[31]? = some 1)

structure IsTold (e : TokenEvent) (contract : String) (topics : List Bytes) (data : Bytes) :
    Prop where
  contract : e.contract = contract
  topics : ∃ first second, topics = [e.declaration.id, first, second] ∧
    e.firstParty.hashBytes = first.drop 12 ∧ e.secondParty.hashBytes = second.drop 12
  size : 32 ≤ data.length
  value : e.HasWord data

/-! ## The declaration of an event -/

def firstName : TokenEvent → String
  | transfer .. => "from"
  | approval .. | approvalForAll .. => "owner"

def secondName : TokenEvent → String
  | transfer .. => "to"
  | approval .. => "spender"
  | approvalForAll .. => "operator"

def valueName : TokenEvent → String
  | transfer .. | approval .. => "value"
  | approvalForAll .. => "approved"

def valueType : TokenEvent → AbiType
  | transfer .. | approval .. => .uint 256
  | approvalForAll .. => .bool

theorem declaration_eq (e : TokenEvent) : e.declaration =
    .ofParties e.name e.firstName e.secondName e.valueName e.valueType := by
  cases e <;> rfl

theorem nodup_names (e : TokenEvent) : [e.firstName, e.secondName, e.valueName].Nodup := by
  cases e <;> simp only [firstName, secondName, valueName] <;> decide

theorem eq_declaration {declared : AbiEvent} {e : TokenEvent}
    (h : declared ∈ Standard.events.events) (hname : declared.name = e.name) :
    declared = e.declaration := by
  have hnames : (Standard.events.events.map AbiEvent.name).Nodup := by decide
  have hsame : e.declaration.name = e.name := by cases e <;> rfl
  exact List.inj_on_of_nodup_map hnames h e.declaration_mem (hname.trans hsame.symm)

/-! ## The fields of a log -/

variable {contract : String} {topics : List Bytes} {x y data : Bytes} {τ : AbiToken}

def Holds : TokenEvent → AbiToken → Prop
  | transfer _ _ _ v, τ | approval _ _ _ v, τ => (AbiValue.ofToken τ).asUint? = some v
  | approvalForAll _ _ _ approved, τ => (AbiValue.ofToken τ).asBool? = some approved

theorem decode_value_iff (e : TokenEvent) :
    (∃ τ, AbiToken.decode [e.valueType] data = .ok [τ] ∧ e.Holds τ) ↔
      32 ≤ data.length ∧ e.HasWord data := by
  cases e with
  | transfer | approval => exact AbiToken.decode_uint_iff
  | approvalForAll => exact AbiToken.decode_bool_iff

abbrev decoded (e : TokenEvent) (x y : Bytes) (τ : AbiToken) : DecodedEvent :=
  AbiEvent.partiesOf e.name e.firstName e.secondName e.valueName x y τ

theorem parameter_eq_ok_iff {α : Type} {d : DecodedEvent} {cast : AbiValue → Option α}
    {name : String} {a : α} :
    parameter d cast name = .ok a ↔ (d.parameter? name).bind cast = some a := by
  rw [parameter]
  cases (d.parameter? name).bind cast <;> simp

theorem map_kind_eq_ok_iff {α : Type} {kind : String → Address → Address → α → TokenEvent}
    (hkind : ∀ {c a b v c' a' b' v'}, kind c a b v = kind c' a' b' v' ↔
      c = c' ∧ a = a' ∧ b = b' ∧ v = v')
    {c c' : String} {a b a' b' : Address} {value : Except AbiError α} {v : α} :
    value.map (kind c a b) = .ok (kind c' a' b' v) ↔
      c = c' ∧ a = a' ∧ b = b' ∧ value = .ok v := by
  simp only [except_map_eq_ok_iff, hkind]
  constructor
  · rintro ⟨_, hvalue, rfl, rfl, rfl, rfl⟩
    exact ⟨rfl, rfl, rfl, hvalue⟩
  · rintro ⟨rfl, rfl, rfl, hvalue⟩
    exact ⟨v, hvalue, rfl, rfl, rfl, rfl⟩

theorem ofDecoded_decoded_eq_ok_iff (e : TokenEvent) :
    ofDecoded contract (e.decoded x y τ) = .ok e ↔
      contract = e.contract ∧ .ofHash (x.drop 12) = e.firstParty ∧
        .ofHash (y.drop 12) = e.secondParty ∧ e.Holds τ := by
  cases e with
  | transfer c a b v =>
    have hread : ofDecoded contract ((transfer c a b v).decoded x y τ) =
        (parameter ((transfer c a b v).decoded x y τ) AbiValue.asUint? "value").map
          (transfer contract (.ofHash (x.drop 12)) (.ofHash (y.drop 12))) := rfl
    rw [hread, map_kind_eq_ok_iff (by simp), parameter_eq_ok_iff]
    rfl
  | approval c a b v =>
    have hread : ofDecoded contract ((approval c a b v).decoded x y τ) =
        (parameter ((approval c a b v).decoded x y τ) AbiValue.asUint? "value").map
          (approval contract (.ofHash (x.drop 12)) (.ofHash (y.drop 12))) := rfl
    rw [hread, map_kind_eq_ok_iff (by simp), parameter_eq_ok_iff]
    rfl
  | approvalForAll c a b approved =>
    -- The value of this event is looked at before its parties.
    have hread : ofDecoded contract ((approvalForAll c a b approved).decoded x y τ) =
        (parameter ((approvalForAll c a b approved).decoded x y τ) AbiValue.asBool?
          "approved").map (approvalForAll contract (.ofHash (x.drop 12)) (.ofHash (y.drop 12))) :=
      bind_pure_comp _ _
    rw [hread, map_kind_eq_ok_iff (by simp), parameter_eq_ok_iff]
    rfl

theorem name_of_ofDecoded {d : DecodedEvent} {e : TokenEvent}
    (h : ofDecoded contract d = .ok e) : d.name = e.name := by
  unfold ofDecoded at h
  split at h
  case h_4 => cases h
  all_goals
    rename_i hname
    simp only [bind_eq_ok_iff] at h
    obtain ⟨_, -, _, -, _, -, h⟩ := h
    cases h
    exact hname

/-! ## Accepted logs -/

theorem ofLog_eq_ok_iff_decode {e : TokenEvent} :
    ofLog .standard contract topics data = .ok e ↔
      ∃ rest, topics = e.declaration.id :: rest ∧ ∃ d, e.declaration.decode rest data = .ok d ∧
        ofDecoded contract d = .ok e := by
  rw [ofLog, bind_eq_ok_iff]
  simp only [Registry.decodeLog_standard_eq_ok_iff]
  constructor
  · rintro ⟨d, ⟨declared, hmem, rest, rfl, hdecode⟩, hevent⟩
    have hname := (AbiEvent.name_of_decode hdecode).symm.trans (name_of_ofDecoded hevent)
    obtain rfl := eq_declaration hmem hname
    exact ⟨rest, rfl, d, hdecode, hevent⟩
  · rintro ⟨rest, htopics, d, hdecode, hevent⟩
    exact ⟨d, ⟨_, e.declaration_mem, rest, htopics, hdecode⟩, hevent⟩

theorem ofLog_eq_ok_iff_isTold {e : TokenEvent} (h : ∀ w ∈ topics, w.length = 32) :
    ofLog .standard contract topics data = .ok e ↔ e.IsTold contract topics data := by
  have hparty {w : Bytes} (hw : w ∈ topics) (a : Address) :
      .ofHash (w.drop 12) = a ↔ w.drop 12 = a.hashBytes :=
    Address.ofHash_eq_iff (by rw [List.length_drop, h w hw])
  have hrest {rest : List Bytes} (hr : topics = e.declaration.id :: rest) :
      ∀ w ∈ rest, w.length = 32 := fun w hw => h w (hr ▸ List.mem_cons_of_mem _ hw)
  rw [ofLog_eq_ok_iff_decode]
  constructor
  · rintro ⟨rest, htopics, d, hdecode, hevent⟩
    rw [declaration_eq, AbiEvent.decode_ofParties_eq_ok_iff e.nodup_names (hrest htopics)]
      at hdecode
    obtain ⟨x, y, τ, rfl, hvalue, rfl⟩ := hdecode
    obtain ⟨hcontract, hfirst, hsecond, hholds⟩ := (ofDecoded_decoded_eq_ok_iff e).1 hevent
    obtain ⟨hsize, hword⟩ := e.decode_value_iff.1 ⟨τ, hvalue, hholds⟩
    rw [hparty (by simp [htopics])] at hfirst hsecond
    exact ⟨hcontract.symm, ⟨x, y, htopics, hfirst.symm, hsecond.symm⟩, hsize, hword⟩
  · rintro ⟨hcontract, ⟨x, y, htopics, hfirst, hsecond⟩, hsize, hword⟩
    obtain ⟨τ, hvalue, hholds⟩ := e.decode_value_iff.2 ⟨hsize, hword⟩
    have hdecode : e.declaration.decode [x, y] data = .ok (e.decoded x y τ) := by
      rw [declaration_eq, AbiEvent.decode_ofParties_eq_ok_iff e.nodup_names (hrest htopics)]
      exact ⟨x, y, τ, rfl, hvalue, rfl⟩
    have hevent : ofDecoded contract (e.decoded x y τ) = .ok e := by
      rw [ofDecoded_decoded_eq_ok_iff, hparty (by simp [htopics]), hparty (by simp [htopics])]
      exact ⟨hcontract.symm, hfirst.symm, hsecond.symm, hholds⟩
    exact ⟨[x, y], htopics, _, hdecode, hevent⟩

theorem exists_isTold_iff (h : ∀ w ∈ topics, w.length = 32) :
    (∃ e : TokenEvent, e.IsTold contract topics data) ↔ HasForm topics data := by
  constructor
  · rintro ⟨e, -, ⟨x, y, htopics, -, -⟩, hsize, hword⟩
    refine ⟨⟨_, x, y, htopics, ?_⟩, hsize⟩
    cases e with
    | transfer => exact .inl rfl
    | approval => exact .inr (.inl rfl)
    | approvalForAll => exact .inr (.inr ⟨rfl, hword.1⟩)
  · rintro ⟨⟨id, x, y, rfl, hid⟩, hsize⟩
    have hparty {w : Bytes} (hw : w ∈ [id, x, y]) :
        (Address.ofHash (w.drop 12)).hashBytes = w.drop 12 :=
      Address.hashBytes_ofHash (by rw [List.length_drop, h w hw])
    have hx : x ∈ [id, x, y] := by simp
    have hy : y ∈ [id, x, y] := by simp
    rcases hid with hid | hid | ⟨hid, hzeros⟩
    · exact ⟨transfer contract _ _ _, rfl, ⟨x, y, by rw [hid]; rfl, hparty hx, hparty hy⟩, hsize,
        rfl⟩
    · exact ⟨approval contract _ _ _, rfl, ⟨x, y, by rw [hid]; rfl, hparty hx, hparty hy⟩, hsize,
        rfl⟩
    · exact ⟨approvalForAll contract _ _ (data[31]? = some 1), rfl,
        ⟨x, y, by rw [hid]; rfl, hparty hx, hparty hy⟩, hsize, hzeros, decide_eq_true_iff⟩

/-- Logs of the form of a standard event are accepted, field by field, and all others are refused. -/
theorem ofLog_accepts_iff (contract : String) {topics : List Bytes} (data : Bytes)
    (h : ∀ w ∈ topics, w.length = 32) :
    ((∃ e, ofLog .standard contract topics data = .ok e) ↔ HasForm topics data) ∧
      ∀ e, ofLog .standard contract topics data = .ok e ↔ e.IsTold contract topics data := by
  refine ⟨?_, fun e => ofLog_eq_ok_iff_isTold h⟩
  simp only [ofLog_eq_ok_iff_isTold h]
  exact exists_isTold_iff h

/-- What stands before an address in a topic and behind the word of the data counts for nothing, and
a byte other than one approves of nothing. -/
theorem ofLog_accepts_disapproval :
    let topics := [Standard.approvalForAllEvent.id, 0xFF :: Bytes.ofNat 31 1, Bytes.ofNat 32 2]
    (∀ w ∈ topics, w.length = 32) ∧
      ofLog .standard "c" topics (Bytes.ofNat 32 2 ++ [1]) =
        .ok (approvalForAll "c" ⟨1⟩ ⟨2⟩ false) := by
  intro topics
  have hwords : ∀ w ∈ topics, w.length = 32 := by
    simp [topics, AbiEvent.id, Keccak.length_digest]
  have hfirst : (Address.mk 1).hashBytes = (0xFF :: Bytes.ofNat 31 1).drop 12 := by decide
  have hsecond : (Address.mk 2).hashBytes = (Bytes.ofNat 32 2).drop 12 := by decide
  refine ⟨hwords, ((ofLog_accepts_iff "c" _ hwords).2 _).2 ?_⟩
  exact ⟨rfl, ⟨_, _, rfl, hfirst, hsecond⟩, by decide, by decide, by decide⟩

end Tronkit.TokenEvent
