import Tronkit.Node.Message
import Tronkit.Proofs.Node.Report

/-!
# Events of the index

What the event index answers is told field by field, as the other messages are. The results of an
event have keys of their own: of a key that comes twice in the answer only the last value is kept.
-/

namespace Tronkit.Node

open Json

def Event.semantics : Record.Semantics Event.record :=
  ((((((Record.Semantics.const Event.mk).apply
    (.withDefault "block_number" 0 (Reader.exact_natBelow _)) (by decide)).apply
    (.withDefault "block_timestamp" 0 (Reader.exact_natBelow _)) (by decide)).apply
    (.withDefault "contract_address" "" Reader.exact_string) (by decide)).apply
    (.withDefault "event_name" "" Reader.exact_string) (by decide)).apply
    (.withDefault "event" "" Reader.exact_string) (by decide)).apply
    (.withDefault "result" [] Reader.exact_object) (by decide)

def Events.semantics : Record.Semantics Events.record :=
  ((Record.Semantics.const Events.mk).apply
    (.withDefault "data" [] Event.semantics.exact_reader.option.list) (by decide)).apply
    (.withDefault "success" false Reader.exact_bool) (by decide)

theorem Event.value_eq_some {depth : Nat} {M : Places} {e : Event} :
    Event.semantics.value depth M = some e ↔
      ∃ b t c n s x, Reader.u64.field? depth (M "block_number") = some b ∧
        Reader.u64.field? depth (M "block_timestamp") = some t ∧
        Reader.string.field? depth (M "contract_address") = some c ∧
        Reader.string.field? depth (M "event_name") = some n ∧
        Reader.string.field? depth (M "event") = some s ∧
        Reader.object.field? depth (M "result") = some x ∧
        e = ⟨b.getD 0, t.getD 0, c.getD "", n.getD "", s.getD "", x.getD []⟩ := by
  simp only [semantics, Record.Semantics.value_apply, Record.Semantics.value_const,
    Record.Semantics.value_withDefault]
  constructor
  · rintro ⟨-, -, ⟨-, -, ⟨-, -, ⟨-, -, ⟨-, -, ⟨-, -, rfl, ⟨b, hb, rfl⟩, rfl⟩, ⟨t, ht, rfl⟩, rfl⟩,
      ⟨c, hc, rfl⟩, rfl⟩, ⟨n, hn, rfl⟩, rfl⟩, ⟨s, hs, rfl⟩, rfl⟩, ⟨x, hx, rfl⟩, rfl⟩
    exact ⟨b, t, c, n, s, x, hb, ht, hc, hn, hs, hx, rfl⟩
  · rintro ⟨b, t, c, n, s, x, hb, ht, hc, hn, hs, hx, rfl⟩
    exact ⟨_, _, ⟨_, _, ⟨_, _, ⟨_, _, ⟨_, _, ⟨_, _, rfl, ⟨b, hb, rfl⟩, rfl⟩, ⟨t, ht, rfl⟩, rfl⟩,
      ⟨c, hc, rfl⟩, rfl⟩, ⟨n, hn, rfl⟩, rfl⟩, ⟨s, hs, rfl⟩, rfl⟩, ⟨x, hx, rfl⟩, rfl⟩

theorem Events.value_eq_some {depth : Nat} {M : Places} {es : Events} :
    Events.semantics.value depth M = some es ↔
      ∃ d s, (Reader.list (Reader.option Event.record.reader)).field? depth (M "data") = some d ∧
        Reader.bool.field? depth (M "success") = some s ∧
        es = ⟨d.getD [], s.getD false⟩ := by
  simp only [semantics, Record.Semantics.value_apply, Record.Semantics.value_const,
    Record.Semantics.value_withDefault]
  constructor
  · rintro ⟨-, -, ⟨-, -, rfl, ⟨d, hd, rfl⟩, rfl⟩, ⟨s, hs, rfl⟩, rfl⟩
    exact ⟨d, s, hd, hs, rfl⟩
  · rintro ⟨d, s, hd, hs, rfl⟩
    exact ⟨_, _, ⟨_, _, rfl, ⟨d, hd, rfl⟩, rfl⟩, ⟨s, hs, rfl⟩, rfl⟩

def Event.HasKeys (e : Event) : Prop := (e.result.map Prod.fst).Nodup

theorem Event.reader_yields : Event.record.reader.Yields Event.HasKeys := by
  intro depth bs e rest hread
  cases depth with
  | zero => cases hread
  | succ depth =>
    obtain ⟨b, t, c, n, s, x, -, -, -, -, -, hx, rfl⟩ :=
      Event.value_eq_some.1 (Event.semantics.reader_ok hread).2
    cases x with
    | none => exact List.nodup_nil
    | some ms => exact Reader.object_yields.field? hx ms rfl

theorem Events.reader_yields :
    Events.record.reader.Yields fun es => ∀ e, some e ∈ es.data → e.HasKeys := by
  intro depth bs es rest hread
  cases depth with
  | zero => cases hread
  | succ depth =>
    obtain ⟨d, s, hd, -, rfl⟩ := Events.value_eq_some.1 (Events.semantics.reader_ok hread).2
    intro e he
    cases d with
    | none => cases he
    | some es => exact Event.reader_yields.option.list.field? hd es rfl (some e) he e rfl

theorem Events.hasKeys_of_answers {net : Transport} {earlier : List Request} {request : Request}
    {es : Events} (h : Answers net earlier request Events.record.reader es) :
    ∀ e ∈ es.data.filterMap id, e.HasKeys := by
  intro e he
  obtain ⟨response, -, -, hparse⟩ := h
  obtain ⟨rest, hread, -⟩ := parse_eq_ok_iff.1 hparse
  obtain ⟨x, hx, hsome⟩ := List.mem_filterMap.1 he
  rw [id_eq] at hsome
  exact Events.reader_yields hread e (hsome ▸ hx)

end Tronkit.Node
