import Tronkit.Abi.Registry
import Tronkit.Proofs.Abi.Word
import Tronkit.Proofs.Address
import Tronkit.Proofs.Digest.Keccak
import Mathlib.Data.List.Nodup

/-!
# Events of the log of a block

The first topic of a log tells its event, the other topics hold the indexed parameters and the data
holds the rest. An event is found by its id if no other event of the interface has the same id. The
standard events have two addresses in the topics and one value in the data, and they are decoded as
they were emitted.
-/

namespace Tronkit

theorem Interface.mem_sortedEvents {i : Interface} {e : AbiEvent} :
    e ∈ i.sortedEvents ↔ e ∈ i.events := List.mem_mergeSort

theorem Interface.eventById?_of_mem {i : Interface} {e : AbiEvent} (he : e ∈ i.events)
    (hplain : e.anonymous = false) (hid : ∀ e' ∈ i.events, e'.id = e.id → e' = e) :
    i.eventById? e.id = some e := by
  cases hfind : i.eventById? e.id with
  | none =>
    have hnot := List.find?_eq_none.1 hfind e (mem_sortedEvents.2 he)
    simp [hplain] at hnot
  | some e' =>
    have hmem := mem_sortedEvents.1 (List.mem_of_find?_eq_some hfind)
    have hfound := List.find?_some hfind
    simp only [Bool.and_eq_true, decide_eq_true_eq] at hfound
    rw [hid e' hmem hfound.2]

theorem Interface.eventById?_eq_some {i : Interface} {id : Bytes} {e : AbiEvent}
    (h : i.eventById? id = some e) : e ∈ i.events ∧ e.id = id := by
  have hfound := List.find?_some h
  simp only [Bool.and_eq_true, decide_eq_true_eq] at hfound
  exact ⟨mem_sortedEvents.1 (List.mem_of_find?_eq_some h), hfound.2⟩

def Address.topic (a : Address) : Bytes := Bytes.zeros 12 ++ a.hashBytes

theorem Address.topic_eq_word (a : Address) : a.topic = AbiToken.word a.hash.toNat :=
  Bytes.zeros_append_ofNat 12 a.hash.isLt

theorem Address.ofHash_drop_topic (a : Address) : ofHash (a.topic.drop 12) = a := by
  have hzeros : (Bytes.zeros 12).length = 12 := List.length_replicate
  rw [topic, List.drop_left' hzeros, ofHash_hashBytes]

namespace AbiEvent

variable {name first second third : String} {t : AbiType} {τ : AbiToken} {topics : List Bytes}
  {x y data : Bytes} {d : DecodedEvent}

theorem name_of_decode {e : AbiEvent} (h : e.decode topics data = .ok d) : d.name = e.name := by
  obtain ⟨topicTokens, -, h⟩ := bind_eq_ok_iff.1 h
  split at h
  · cases h
  · obtain ⟨dataTokens, -, h⟩ := bind_eq_ok_iff.1 h
    cases h
    rfl

def ofParties (name first second third : String) (t : AbiType) : AbiEvent :=
  ⟨name, [⟨first, .address, true⟩, ⟨second, .address, true⟩, ⟨third, t, false⟩], false⟩

def partiesOf (name first second third : String) (x y : Bytes) (τ : AbiToken) : DecodedEvent :=
  ⟨name, [(first, .address (.ofHash (x.drop 12))), (second, .address (.ofHash (y.drop 12))),
    (third, .ofToken τ)]⟩

theorem decode_ofParties_words (hnames : [first, second, third].Nodup) (hx : x.length = 32)
    (hy : y.length = 32) (hvalue : AbiToken.decode [t] data = .ok [τ]) :
    (ofParties name first second third t).decode [x, y] data =
      .ok (partiesOf name first second third x y τ) := by
  have htopics : AbiToken.decode [.address, .address] [x, y].flatten =
      .ok [.address (.ofHash (x.drop 12)), .address (.ofHash (y.drop 12))] := by
    rw [List.flatten_cons, List.flatten_cons, List.flatten_nil, List.append_nil]
    exact AbiToken.decode_addresses hx hy
  have hindexed : (ofParties name first second third t).parameters true =
      [⟨first, .address, true⟩, ⟨second, .address, true⟩] := rfl
  have hplain : (ofParties name first second third t).parameters false = [⟨third, t, false⟩] := rfl
  simp only [List.nodup_cons, List.mem_cons, List.not_mem_nil, or_false, not_or] at hnames
  obtain ⟨⟨h₁₂, h₁₃⟩, h₂₃, -⟩ := hnames
  rw [decode, hindexed, hplain]
  simp only [List.map_cons, List.map_nil, AbiType.asTopic, htopics, hvalue, ok_bind]
  simp [ofParties, partiesOf, List.lookup_cons, AbiValue.ofToken, beq_false_of_ne h₁₂,
    beq_false_of_ne h₁₃, beq_false_of_ne h₂₃]
  rfl

theorem decode_ofParties (hnames : [first, second, third].Nodup) (hfits : AbiToken.Fits t τ)
    (hlen : (AbiToken.encode [τ]).length < Nat.pow 2 32) (a b : Address) :
    (ofParties name first second third t).decode [a.topic, b.topic] (AbiToken.encode [τ]) =
      .ok ⟨name, [(first, .address a), (second, .address b), (third, .ofToken τ)]⟩ := by
  have hdata : AbiToken.decode [t] (AbiToken.encode [τ]) = .ok [τ] :=
    AbiToken.decode_encode (.cons hfits .nil) fun _ _ _ => hlen
  have hword (a : Address) : a.topic.length = 32 := by rw [a.topic_eq_word, AbiToken.length_word]
  rw [decode_ofParties_words hnames (hword a) (hword b) hdata, partiesOf, a.ofHash_drop_topic,
    b.ofHash_drop_topic]

/-- The topics are counted, so with more of them than parties no such event is decoded. -/
theorem exists_of_decode_ofParties
    (h : (ofParties name first second third t).decode topics data = .ok d) :
    ∃ x y τ, topics = [x, y] ∧ AbiToken.decode [t] data = .ok [τ] := by
  obtain ⟨topicTokens, htopics, h⟩ := bind_eq_ok_iff.1 h
  split at h
  · cases h
  · rename_i hcount
    obtain ⟨dataTokens, hdata, -⟩ := bind_eq_ok_iff.1 h
    have htwo : topicTokens.length = 2 := AbiToken.length_of_decode htopics
    obtain ⟨x, y, hxy⟩ := List.length_eq_two.1 ((not_not.1 hcount).symm.trans htwo)
    obtain ⟨τ, rfl⟩ := List.length_eq_one_iff.1 (AbiToken.length_of_decode hdata)
    exact ⟨x, y, τ, hxy, hdata⟩

theorem decode_ofParties_eq_ok_iff (hnames : [first, second, third].Nodup)
    (htopics : ∀ w ∈ topics, w.length = 32) :
    (ofParties name first second third t).decode topics data = .ok d ↔
      ∃ x y τ, topics = [x, y] ∧ AbiToken.decode [t] data = .ok [τ] ∧
        d = partiesOf name first second third x y τ := by
  constructor
  · intro h
    obtain ⟨x, y, τ, rfl, hvalue⟩ := exists_of_decode_ofParties h
    rw [decode_ofParties_words hnames (htopics x (by simp)) (htopics y (by simp)) hvalue] at h
    exact ⟨x, y, τ, rfl, hvalue, (Except.ok.inj h).symm⟩
  · rintro ⟨x, y, τ, rfl, hvalue, rfl⟩
    exact decode_ofParties_words hnames (htopics x (by simp)) (htopics y (by simp)) hvalue

end AbiEvent

/-! ## The standard events -/

theorem Standard.head_transferEvent : Standard.transferEvent.id.head? = some 0xDD := by
  rw [AbiEvent.id, Keccak.digest_eq]
  decide +kernel

theorem Standard.head_approvalEvent : Standard.approvalEvent.id.head? = some 0x8C := by
  rw [AbiEvent.id, Keccak.digest_eq]
  decide +kernel

theorem Standard.head_approvalForAllEvent :
    Standard.approvalForAllEvent.id.head? = some 0x17 := by
  rw [AbiEvent.id, Keccak.digest_eq]
  decide +kernel

theorem Standard.nodup_eventIds : (Standard.events.events.map AbiEvent.id).Nodup := by
  -- The first bytes of the ids already tell the events apart.
  refine List.Nodup.of_map List.head? ?_
  simp [events, head_transferEvent, head_approvalEvent, head_approvalForAllEvent]

theorem Standard.plain_of_mem {e : AbiEvent} (h : e ∈ Standard.events.events) :
    e.anonymous = false := by
  simp only [Standard.events, List.mem_cons, List.not_mem_nil, or_false] at h
  rcases h with rfl | rfl | rfl <;> rfl

theorem Registry.decodeLog_eq_decode {r : Registry} {name : String} {i : Interface} {e : AbiEvent}
    (hget : r.get name = .ok i) (he : e ∈ i.events) (hplain : e.anonymous = false)
    (hid : ∀ e' ∈ i.events, e'.id = e.id → e' = e) (topics : List Bytes) (data : Bytes) :
    r.decodeLog name (e.id :: topics) data =
      (e.decode topics data).mapError fun fault => .decodeFailed fault.message := by
  have hfind := Interface.eventById?_of_mem he hplain hid
  rw [decodeLog, hget, ok_bind]
  simp only [hfind]

theorem Registry.decodeLog_standard {e : AbiEvent} (h : e ∈ Standard.events.events)
    (topics : List Bytes) (data : Bytes) :
    standard.decodeLog Standard.eventsName (e.id :: topics) data =
      (e.decode topics data).mapError fun fault => .decodeFailed fault.message :=
  decodeLog_eq_decode (get_put_same _ _ _) h (Standard.plain_of_mem h)
    (fun _ hmem => List.inj_on_of_nodup_map Standard.nodup_eventIds hmem h) topics data

/-- A log is decoded by the standard event that its first topic is the id of, and by no other. -/
theorem Registry.decodeLog_standard_eq_ok_iff {topics : List Bytes} {data : Bytes}
    {d : DecodedEvent} :
    standard.decodeLog Standard.eventsName topics data = .ok d ↔
      ∃ e ∈ Standard.events.events, ∃ rest, topics = e.id :: rest ∧ e.decode rest data = .ok d := by
  constructor
  · intro h
    obtain ⟨i, hget, hfound⟩ := bind_eq_ok_iff.1 h
    obtain rfl : Standard.events = i := Except.ok.inj ((get_put_same _ _ _).symm.trans hget)
    cases topics with
    | nil => cases hfound
    | cons id rest =>
      cases hfind : Standard.events.eventById? id with
      | none =>
        simp only [hfind] at hfound
        cases hfound
      | some e =>
        obtain ⟨hmem, rfl⟩ := Interface.eventById?_eq_some hfind
        simp only [hfind] at hfound
        exact ⟨e, hmem, rest, rfl, except_mapError_eq_ok_iff.1 hfound⟩
  · rintro ⟨e, hmem, rest, rfl, hdecode⟩
    rw [decodeLog_standard hmem, hdecode]
    rfl

end Tronkit
