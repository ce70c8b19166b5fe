import Tronkit.Configuration
import Tronkit.Model.Info
import Tronkit.Proofs.Json.BigNumber
import Tronkit.Proofs.Json.Restored

/-!
# Stored values

Transactions, what is known of them and configurations are kept as JSON texts. Each is read from
the text that was written for it as the same value, with amounts of any size and sign, texts of any
characters, and optional fields that are there or left out.
-/

namespace Tronkit

open Json

open Record.Semantics (Restores)

namespace FeeLimit

def semantics : Record.Semantics record :=
  (((Record.Semantics.const FeeLimit.mk).apply
    (.required "gas" (BigNumber.exact_reader _)) (by decide)).apply
    (.required "gas_fee_cap" (BigNumber.exact_reader _)) (by decide)).apply
    (.required "gas_tip_cap" (BigNumber.exact_reader _)) (by decide)

theorem reads_render (f : FeeLimit) (depth : Nat) :
    record.reader.Reads (depth + 1) f.render f := by
  have hgas := BigNumber.reads_quoted f.gas depth
  have hfeeCap := BigNumber.reads_quoted f.gasFeeCap depth
  have htipCap := BigNumber.reads_quoted f.gasTipCap depth
  have hrestores : semantics.Restores depth _ f :=
    ((((Restores.const _).apply (.required hgas)).apply (.required hfeeCap)).apply
      (.required htipCap))
  exact hrestores.reads

theorem isPresent_render (f : FeeLimit) : IsPresent f.render := isPresent_object _

end FeeLimit

namespace Transaction

def Fits (t : Transaction) : Prop := t.chainId < u64Limit

theorem exact_hexData : hexData.Exact := Reader.exact_string.filterMap _

theorem reads_hexData (bs : Bytes) (depth : Nat) :
    hexData.Reads depth (Render.string (Hex.text bs)) bs := by
  intro rest hends
  have htext := reads_string depth (Hex.text bs) rest hends
  have hdecode : Hex.decode? (Hex.text bs).toList = some bs := by
    rw [Hex.text, String.toList_ofList, Hex.decode?, Hex.decode_encode]
    rfl
  exact Reader.filterMap_eq_ok_iff.2 ⟨_, htext, hdecode⟩

def semantics : Record.Semantics record :=
  ((((((Record.Semantics.const Transaction.mk).apply
    (.required "from" Reader.exact_string) (by decide)).apply
    (.required "to" Reader.exact_string) (by decide)).apply
    (.required "amount" (BigNumber.exact_reader _)) (by decide)).apply
    (.withDefault "data" [] exact_hexData) (by decide)).apply
    (.optional "fee" FeeLimit.semantics.exact_reader) (by decide)).apply
    (.withDefault "chain_id" 0 (Reader.exact_natBelow _)) (by decide)

theorem reads_render {t : Transaction} (h : t.Fits) (depth : Nat) :
    record.reader.Reads (depth + 2) t.render t := by
  have hamount := BigNumber.reads_quotedInteger t.amount (depth + 1)
  have hdata := reads_hexData t.data (depth + 1)
  have hchain := reads_natBelow h (depth + 1)
  have hrestores : semantics.Restores (depth + 1) _ t :=
    (((((((Restores.const _).apply (.required (reads_string _ t.sender))).apply
      (.required (reads_string _ t.recipient))).apply (.required hamount)).apply
      (.withDefault hdata)).apply
      (.optional (fun f _ => f.isPresent_render) fun f _ => f.reads_render depth)).apply
      (.withDefault hchain))
  exact hrestores.reads

end Transaction

namespace TransactionStatus

theorem reads_name (s : TransactionStatus) (depth : Nat) :
    reader.Reads depth (Render.string s.name) s := by
  have hname : names.lookup s.name = some s := by cases s <;> rfl
  exact reads_choice hname depth

theorem exact_reader : reader.Exact := Reader.exact_choice names

end TransactionStatus

namespace GasInfo

def semantics : Record.Semantics record :=
  (Record.Semantics.const GasInfo.mk).apply
    (.required "fee" (BigNumber.exact_reader _)) (by decide)

theorem reads_render (g : GasInfo) (depth : Nat) :
    record.reader.Reads (depth + 1) g.render g := by
  have hrestores : semantics.Restores depth _ g :=
    (Restores.const _).apply (.required (BigNumber.reads_quoted g.fee depth))
  exact hrestores.reads

theorem isPresent_render (g : GasInfo) : IsPresent g.render := isPresent_object _

end GasInfo

namespace EventLog

theorem exact_bytesReader : bytesReader.Exact := Reader.exact_byte.list

theorem reads_renderBytes (bs : Bytes) (depth : Nat) :
    bytesReader.Reads (depth + 1) (renderBytes bs) bs :=
  reads_list Reader.exact_byte fun b _ => reads_byte b depth

def semantics : Record.Semantics record :=
  (((Record.Semantics.const EventLog.mk).apply
    (.required "address" Reader.exact_string) (by decide)).apply
    (.required "topics" exact_bytesReader.list) (by decide)).apply
    (.required "data" exact_bytesReader) (by decide)

theorem reads_render (e : EventLog) (depth : Nat) :
    record.reader.Reads (depth + 3) e.render e := by
  have htopics : (Reader.list bytesReader).Reads (depth + 2)
      (Render.array (e.topics.map renderBytes)) e.topics :=
    reads_list exact_bytesReader fun bs _ => reads_renderBytes bs depth
  have hdata := reads_renderBytes e.data (depth + 1)
  have hrestores : semantics.Restores (depth + 2) _ e :=
    ((((Restores.const _).apply (.required (reads_string _ e.address))).apply
      (.required htopics)).apply (.required hdata))
  exact hrestores.reads

end EventLog

namespace TransactionInfo

def semantics : Record.Semantics record :=
  ((((((Record.Semantics.const TransactionInfo.mk).apply
    (.required "tx" Transaction.semantics.exact_reader) (by decide)).apply
    (.required "is_pending" Reader.exact_bool) (by decide)).apply
    (.required "status" TransactionStatus.exact_reader) (by decide)).apply
    (.optional "error" Reader.exact_string) (by decide)).apply
    (.optional "gas" GasInfo.semantics.exact_reader) (by decide)).apply
    (.withDefault "logs" [] EventLog.semantics.exact_reader.list) (by decide)

theorem reads_render {i : TransactionInfo} (h : i.tx.Fits) (depth : Nat) :
    record.reader.Reads (depth + 5) i.render i := by
  have htx := Transaction.reads_render h (depth + 2)
  have hstatus := i.status.reads_name (depth + 4)
  have hlogs := reads_list EventLog.semantics.exact_reader
    fun e (_ : e ∈ i.logs) => e.reads_render depth
  have hrestores : semantics.Restores (depth + 4) _ i :=
    (((((((Restores.const _).apply (.required htx)).apply
      (.required (reads_bool _ i.isPending))).apply (.required hstatus)).apply
      (.optional (fun s _ => isPresent_string s) fun s _ => reads_string _ s)).apply
      (.optional (fun g _ => g.isPresent_render) fun g _ => g.reads_render (depth + 3))).apply
      (.withDefault hlogs))
  exact hrestores.reads

end TransactionInfo

namespace Configuration

structure Fits (c : Configuration) : Prop where
  chainId : c.chainId < u64Limit
  timeoutSecs : ∀ n, c.timeoutSecs = some n → n < u64Limit

def semantics : Record.Semantics record :=
  ((((Record.Semantics.const Configuration.mk).apply
    (.required "endpoints" Reader.exact_string.list) (by decide)).apply
    (.optional "api_key" Reader.exact_string) (by decide)).apply
    (.required "chain_id" (Reader.exact_natBelow _)) (by decide)).apply
    (.optional "timeout_secs" (Reader.exact_natBelow _)) (by decide)

theorem reads_render {c : Configuration} (h : c.Fits) (depth : Nat) :
    record.reader.Reads (depth + 2) c.render c := by
  have hendpoints := reads_list Reader.exact_string
    fun s (_ : s ∈ c.endpoints) => reads_string depth s
  have hchain := reads_natBelow h.chainId (depth + 1)
  have htimeout := fun n (hn : c.timeoutSecs = some n) =>
    reads_natBelow (h.timeoutSecs n hn) (depth + 1)
  have hrestores : semantics.Restores (depth + 1) _ c :=
    (((((Restores.const _).apply (.required hendpoints)).apply
      (.optional (fun s _ => isPresent_string s) fun s _ => reads_string _ s)).apply
      (.required hchain)).apply (.optional (fun n _ => (isRaw_decimalText n).2) htimeout))
  exact hrestores.reads

end Configuration

/-! ## Whole texts -/

def ReadsBack {α : Type} (r : Reader α) (write : α → List Char) (a : α) : Prop :=
  parseText r (String.ofList (write a)) = .ok a

theorem readsBack_stored :
    (∀ f : FeeLimit, ReadsBack FeeLimit.record.reader FeeLimit.render f) ∧
    (∀ t : Transaction, t.Fits → ReadsBack Transaction.record.reader Transaction.render t) ∧
    (∀ g : GasInfo, ReadsBack GasInfo.record.reader GasInfo.render g) ∧
    (∀ e : EventLog, ReadsBack EventLog.record.reader EventLog.render e) ∧
    (∀ i : TransactionInfo, i.tx.Fits →
      ReadsBack TransactionInfo.record.reader TransactionInfo.render i) ∧
    (∀ c : Configuration, c.Fits →
      ReadsBack Configuration.record.reader Configuration.render c) := by
  refine ⟨?_, ?_, ?_, ?_, ?_, ?_⟩
  · intro f
    exact (f.reads_render 126).parseText
  · intro t h
    exact (Transaction.reads_render h 125).parseText
  · intro g
    exact (g.reads_render 126).parseText
  · intro e
    exact (e.reads_render 124).parseText
  · intro i h
    exact (TransactionInfo.reads_render h 122).parseText
  · intro c h
    exact (Configuration.reads_render h 125).parseText

/-- A failed transaction of a negative amount with two logs, and a configuration at the bounds. -/
theorem readsBack_stored_at_bounds :
    ReadsBack TransactionInfo.record.reader TransactionInfo.render
      ⟨⟨"from \"ü\"", "\n", -100000000000000000000, [0x00, 0xFF], some ⟨0, 1, Nat.pow 2 70⟩,
          u64Limit - 1⟩,
        false, .failed, some "", none, [⟨"", [], [0x07]⟩, ⟨"a", [[], [0xFF]], []⟩]⟩ ∧
    ReadsBack Configuration.record.reader Configuration.render
      ⟨["", "\\"], none, u64Limit - 1, some 0⟩ := by
  obtain ⟨-, -, -, -, hinfo, hconfiguration⟩ := readsBack_stored
  refine ⟨hinfo _ (by unfold Transaction.Fits; decide), hconfiguration _ ⟨by decide, ?_⟩⟩
  intro n hn
  cases hn
  decide

end Tronkit
