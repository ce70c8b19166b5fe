import Tronkit.Abi.Registry
import Tronkit.Proofs.Json.Tree

/-!
# The standard interfaces are as they are declared

A list with each entry on a line of its own is read as the entries, if each of these is read from
its own text. The entries by which the standard interfaces are declared are so, and what they
declare are the interfaces. So registering the two declarations comes to the registry of the
standard interfaces.
-/

namespace Tronkit

open Json

namespace Standard

variable {depth : Nat} {v : Json} {vs : List Json}

/-! ## Entries on lines of their own -/

theorem skipBlanks_ending (rest : Bytes) :
    skipBlanks (Utf8.encode ending ++ rest) = 0x5D :: rest := by
  have hending : Utf8.encode ending ++ rest = [0x0A] ++ 0x5D :: rest := rfl
  rw [hending, skipBlanks_of_blanks (List.all_eq_true.1 (by decide))]
  exact skipBlanks_cons (by decide) rest

theorem skipBlanks_indent (bs : Bytes) : skipBlanks (Utf8.encode indent ++ bs) = skipBlanks bs :=
  skipBlanks_of_blanks (List.all_eq_true.1 (by decide)) bs

theorem reads_indented (h : Legible depth v) : Reader.tree.Reads depth (indent ++ v.render) v := by
  intro rest hends
  rw [Utf8.encode_append, List.append_assoc, ← Reader.tree_skipBlanks, skipBlanks_indent,
    Reader.tree_skipBlanks]
  exact h.reads_tree rest hends

theorem reads_listing (h : ∀ w ∈ vs, Legible depth w) :
    (Reader.list Reader.tree).Reads (depth + 1) (listing vs) vs := by
  intro rest _
  have hending : Ends (Utf8.encode ending ++ rest) := ends_cons (by decide) _
  have hlines := elements_separated Reader.exact_tree hending (skipBlanks_ending rest)
    fun w hw => reads_indented (h w hw)
  have hbracket : Utf8.encode (listing vs) ++ rest =
      0x5B :: (Utf8.encode (Render.separated (vs.map fun v => indent ++ v.render)) ++
        (Utf8.encode ending ++ rest)) := by
    have hopen : Utf8.encodeChar '[' = [0x5B] := rfl
    rw [listing, List.cons_append, Utf8.encode_cons, Utf8.encode_append, hopen]
    simp
  rw [hbracket, Reader.list, skipBlanks_cons (by decide)]
  exact hlines

/-! ## The entries of the standard interfaces -/

theorem legible_typed (name type : String) : ∀ m ∈ typed name type, Legible depth m.2 :=
  List.forall_mem_cons.2 ⟨.string depth name, List.forall_mem_singleton.2 (.string depth type)⟩

theorem legible_parameterEntry (name type : String) :
    Legible (depth + 1) (parameterEntry name type) :=
  .object_of_keys ["internalType", "name", "type"] (by decide) rfl
    (List.forall_mem_cons.2 ⟨.string depth type, legible_typed name type⟩)

theorem legible_indexedEntry (indexed : Bool) (name type : String) :
    Legible (depth + 1) (indexedEntry indexed name type) :=
  .object_of_keys ["indexed", "name", "type"] (by decide) rfl
    (List.forall_mem_cons.2 ⟨.bool depth indexed, legible_typed name type⟩)

theorem legible_functionEntry (name : String) (inputs : List (String × String))
    (result mutability : String) :
    Legible (depth + 3) (functionEntry name inputs result mutability) := by
  have hinputs : ∀ v ∈ inputs.map (fun p => parameterEntry p.1 p.2), Legible (depth + 1) v :=
    List.forall_mem_map.2 fun p _ => legible_parameterEntry p.1 p.2
  have hresult : ∀ v ∈ [parameterEntry "" result], Legible (depth + 1) v :=
    List.forall_mem_singleton.2 (legible_parameterEntry "" result)
  refine .object_of_keys ["inputs", "name", "outputs", "stateMutability", "type"] (by decide) rfl
    fun m hm => ?_
  simp only [List.mem_cons, List.not_mem_nil, or_false] at hm
  rcases hm with rfl | rfl | rfl | rfl | rfl
  · exact .array hinputs
  · exact .string _ name
  · exact .array hresult
  · exact .string _ mutability
  · exact .string _ "function"

theorem legible_transferEntry : Legible (depth + 3) transferEntry := by
  have hinput (name type : String) : Legible (depth + 1) (.object (typed name type)) :=
    .object_of_keys ["name", "type"] (by decide) rfl (legible_typed name type)
  have hinputs : ∀ v ∈ [.object (typed "_to" "address"), .object (typed "_value" "uint256")],
      Legible (depth + 1) v :=
    List.forall_mem_cons.2 ⟨hinput _ _, List.forall_mem_singleton.2 (hinput _ _)⟩
  refine .object_of_keys
    ["constant", "inputs", "name", "outputs", "payable", "stateMutability", "type"] (by decide) rfl
    fun m hm => ?_
  simp only [List.mem_cons, List.not_mem_nil, or_false] at hm
  rcases hm with rfl | rfl | rfl | rfl | rfl | rfl | rfl
  · exact .bool _ false
  · exact .array hinputs
  · exact .string _ "transfer"
  · exact .array (List.forall_mem_nil _)
  · exact .bool _ false
  · exact .string _ "nonpayable"
  · exact .string _ "function"

theorem legible_eventEntry (name : String) (inputs : List (Bool × String × String)) :
    Legible (depth + 3) (eventEntry name inputs) := by
  have hinputs :
      ∀ v ∈ inputs.map (fun p => indexedEntry p.1 p.2.1 p.2.2), Legible (depth + 1) v :=
    List.forall_mem_map.2 fun p _ => legible_indexedEntry p.1 p.2.1 p.2.2
  refine .object_of_keys ["anonymous", "inputs", "name", "type"] (by decide) rfl fun m hm => ?_
  simp only [List.mem_cons, List.not_mem_nil, or_false] at hm
  rcases hm with rfl | rfl | rfl | rfl
  · exact .bool _ false
  · exact .array hinputs
  · exact .string _ name
  · exact .string _ "event"

theorem legible_tokenEntries : ∀ v ∈ tokenEntries, Legible (depth + 3) v := by
  simp [tokenEntries, legible_functionEntry, legible_transferEntry]

theorem legible_eventsEntries : ∀ v ∈ eventsEntries, Legible (depth + 3) v := by
  simp [eventsEntries, legible_eventEntry]

/-! ## What the declarations are read as -/

theorem parse_listing {i : Interface} (h : ∀ v ∈ vs, Legible 126 v)
    (hentries : vs.foldlM Declaration.addEntry .empty = some i) :
    Declaration.parse (String.ofList (listing vs)) = .ok i := by
  rw [Declaration.parse, (reads_listing h).parseText, ok_bind, hentries]
  rfl

theorem parse_tokenText : Declaration.parse tokenText = .ok token :=
  parse_listing legible_tokenEntries rfl

theorem parse_eventsText : Declaration.parse eventsText = .ok events :=
  parse_listing legible_eventsEntries rfl

end Standard

/-- The standard interfaces are those of the two declarations. -/
theorem Registry.loadStandard_eq : loadStandard = .ok standard := by
  have htoken : empty.register Standard.tokenName Standard.tokenText =
      .ok (empty.put Standard.tokenName Standard.token) := by
    rw [register, if_neg (by decide), Standard.parse_tokenText]
  rw [loadStandard, htoken, ok_bind, register, if_neg (by decide), Standard.parse_eventsText]
  rfl

end Tronkit
