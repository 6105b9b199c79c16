import Formulary.Proofs.Notation.Arity
import Formulary.Proofs.Text.Unpaired
import Formulary.Proofs.Tree.Names
import Formulary.Scope

namespace Formulary

-- Whether the binding has a line in the description of a chain. A number of arguments that is too long
-- has none
def Binding.Describable : Binding → Prop
  | .symbol _ => True
  | .function f => f.rendering.arity.all hasDecimalText

theorem Binding.exists_describe (b : Binding) (h : b.Describable) :
    ∃ line, b.describe = .ok line := by
  cases b with
  | symbol s => exact ⟨_, rfl⟩
  | function f =>
      rw [Describable] at h
      rw [describe, FunctionBinding.describe]
      cases hn : f.rendering.arity with
      | none => exact ⟨_, rfl⟩
      | some n =>
          rw [hn, Option.all_some] at h
          have htext : integerText n = .ok (toString (n : Int)) := if_pos h
          exact ⟨_, (bind_eq_ok_iff _ _ _).mpr ⟨_, htext, rfl⟩⟩

namespace Scope

theorem exists_describeEntries (entries : List (Option Binding))
    (h : ∀ entry ∈ entries, ∃ b, entry = some b ∧ b.Describable) :
    ∃ lines, describeEntries entries = .ok lines := by
  induction entries with
  | nil => exact ⟨[], rfl⟩
  | cons entry rest ih =>
      rw [List.forall_mem_cons] at h
      obtain ⟨⟨b, rfl, hb⟩, hrest⟩ := h
      obtain ⟨line, hline⟩ := b.exists_describe hb
      obtain ⟨lines, hlines⟩ := ih hrest
      rw [describeEntries, hline, hlines]
      exact ⟨_, rfl⟩

-- A chain in which no entry is void and each has a line can be described
theorem exists_describe (scope : Scope)
    (h : ∀ layer ∈ scope, ∀ entry ∈ layer.bindings.values, ∃ b, entry = some b ∧ b.Describable) :
    ∃ text, scope.describe = .ok text := by
  have hlayers : ∃ lines, describeLayers scope = .ok lines := by
    induction scope with
    | nil => exact ⟨[], rfl⟩
    | cons layer rest ih =>
        rw [List.forall_mem_cons] at h
        obtain ⟨lines, hlines⟩ := exists_describeEntries _ h.1
        obtain ⟨below, hbelow⟩ := ih h.2
        rw [describeLayers, hlines, hbelow]
        exact ⟨_, rfl⟩
  obtain ⟨lines, hlines⟩ := hlayers
  rw [describe, hlines]
  exact ⟨_, rfl⟩

-- What is put into a layer is what is in it
theorem forall_values_ofBindings (P : Binding → Prop) (label : Text) (entries : List (Text × Binding))
    (h : ∀ e ∈ entries, P e.2) :
    ∀ entry ∈ (Layer.ofBindings label entries).bindings.values, ∃ b, entry = some b ∧ P b := by
  intro entry hentry
  obtain ⟨e, he, rfl⟩ := List.mem_map.mp hentry
  rcases OrderedMap.mem_of_mem_entries_overlay .empty _ e he with he | he
  · cases he
  · obtain ⟨binding, hbinding, rfl⟩ := List.mem_map.mp he
    exact ⟨binding.2, rfl, h binding hbinding⟩

-- The bindings in the chain of a tree are those of the notation, and those of the names of the tree that
-- the notation does not know
structure FromTree (P : Binding → Prop) (table : Notation) (t : Tree) : Prop where
  head : ∀ args name, .call (.text name) args ∈ t.preorder → P (.function (.unknown name))
  function : ∀ name f, table.functions.get? name = some f → P (.function f)
  name : ∀ name, .identifier (.text name) ∈ t.preorder → P (.symbol ⟨name, name⟩)
  symbol : ∀ name s, table.symbols.get? name = some s → P (.symbol s)

theorem FromTree.forall_ofTree (P : Binding → Prop) (table : Notation) (t : Tree)
    (hfrom : FromTree P table t) (scope : Scope) (h : ofTree table t = .ok scope) :
    ∀ layer ∈ scope, layer.label.HasOctets ∧
      ∀ entry ∈ layer.bindings.values, ∃ b, entry = some b ∧ P b := by
  obtain ⟨names, hnames, h⟩ := (bind_eq_ok_iff _ _ _).mp h
  obtain ⟨heads, hheads, h⟩ := (bind_eq_ok_iff _ _ _).mp h
  cases h
  have hoccurs (kind : Tree.Kind) (found : List Text) (hfound : t.namesOf kind = .ok found) :
      ∀ name ∈ found, name ∈ t.occurrences kind := by
    obtain ⟨kinds, -, hfound⟩ := (bind_eq_ok_iff _ _ _).mp hfound
    cases hfound
    exact fun name hname => (Tree.mem_firstOccurrences _ name).mp hname
  simp only [List.forall_mem_cons, List.not_mem_nil, false_implies, implies_true, and_true]
  refine ⟨⟨Text.hasOctets_ofString _, ?_⟩, ⟨Text.hasOctets_ofString _, ?_⟩,
    ⟨Text.hasOctets_ofString _, ?_⟩, ⟨Text.hasOctets_ofString _, ?_⟩⟩ <;>
    apply forall_values_ofBindings <;> intro e he
  · obtain ⟨head, hhead, rfl⟩ := List.mem_map.mp he
    have hcall := hoccurs .call heads hheads head (List.mem_filter.mp hhead).1
    obtain ⟨args, hmem⟩ := (t.mem_occurrences_call head).mp hcall
    exact hfrom.head args head hmem
  · obtain ⟨f, hf, rfl⟩ := List.mem_map.mp he
    exact hfrom.function f.1 f.2 ((table.functions.get?_eq_some_iff f.1 f.2).mpr hf)
  · obtain ⟨name, hname, rfl⟩ := List.mem_map.mp he
    have hidentifier := hoccurs .identifier names hnames name (List.mem_filter.mp hname).1
    exact hfrom.name name ((t.mem_occurrences_identifier name).mp hidentifier)
  · obtain ⟨s, hs, rfl⟩ := List.mem_map.mp he
    exact hfrom.symbol s.1 s.2 ((table.symbols.get?_eq_some_iff s.1 s.2).mpr hs)

end Scope

-- Whether every function of the notation has a line in the description of a chain
def Notation.Describable (table : Notation) : Prop :=
  ∀ name f, table.functions.get? name = some f → (Binding.function f).Describable

theorem Notation.describable_default : Notation.default.Describable := by
  intro name f hf
  obtain ⟨known, hknown, heq⟩ := List.mem_map.mp (OrderedMap.mem_of_get?_ofList _ name f hf)
  cases heq
  exact hasDecimalText_arity_knownRenderings known hknown

theorem Notation.Describable.exists_describe_ofTree (table : Notation) (htable : table.Describable)
    (t : Tree) (scope : Scope) (h : Scope.ofTree table t = .ok scope) :
    ∃ text, scope.describe = .ok text := by
  have hfrom : Scope.FromTree Binding.Describable table t :=
    ⟨fun _ _ _ => rfl, htable, fun _ _ => trivial, fun _ _ _ => trivial⟩
  exact scope.exists_describe fun layer hlayer => (hfrom.forall_ofTree _ table t scope h layer hlayer).2

-- The name of a binding is all of it that its description does not put between quote marks
def Binding.HasOctets : Binding → Prop
  | .symbol s => s.name.HasOctets
  | .function f => f.name.HasOctets

theorem Binding.hasOctets_describe (b : Binding) (h : b.HasOctets) (line : Text)
    (hline : b.describe = .ok line) : line.HasOctets := by
  cases b with
  | symbol s =>
      cases hline
      simpa [HasOctets, SymbolBinding.describe] using h
  | function f =>
      rw [describe, FunctionBinding.describe] at hline
      cases hn : f.rendering.arity with
      | none =>
          rw [hn] at hline
          cases hline
          simpa [HasOctets] using h
      | some n =>
          rw [hn] at hline
          obtain ⟨digits, -, hline⟩ := (bind_eq_ok_iff _ _ _).mp hline
          cases hline
          simpa [HasOctets] using h

namespace Scope

theorem hasOctets_describeEntries (entries : List (Option Binding))
    (h : ∀ entry ∈ entries, ∃ b, entry = some b ∧ b.HasOctets) (lines : List Text)
    (hlines : describeEntries entries = .ok lines) : ∀ line ∈ lines, line.HasOctets := by
  induction entries generalizing lines with
  | nil =>
      cases hlines
      simp
  | cons entry rest ih =>
      rw [List.forall_mem_cons] at h
      obtain ⟨⟨b, rfl, hb⟩, hrest⟩ := h
      obtain ⟨line, hline, hlines⟩ := (bind_eq_ok_iff _ _ _).mp hlines
      obtain ⟨more, hmore, hlines⟩ := (bind_eq_ok_iff _ _ _).mp hlines
      cases hlines
      refine List.forall_mem_cons.mpr ⟨?_, ih hrest more hmore⟩
      simpa using b.hasOctets_describe hb line hline

-- There are octets for a chain in which there are for each label and for each name
theorem hasOctets_describe (scope : Scope) (text : Text) (htext : scope.describe = .ok text)
    (h : ∀ layer ∈ scope, layer.label.HasOctets ∧
      ∀ entry ∈ layer.bindings.values, ∃ b, entry = some b ∧ b.HasOctets) : text.HasOctets := by
  have hlayers (lines : List Text) (hlines : describeLayers scope = .ok lines) :
      ∀ line ∈ lines, line.HasOctets := by
    clear htext
    induction scope generalizing lines with
    | nil =>
        cases hlines
        simp
    | cons layer rest ih =>
        rw [List.forall_mem_cons] at h
        obtain ⟨⟨hlabel, hentries⟩, hrest⟩ := h
        obtain ⟨body, hbody, hlines⟩ := (bind_eq_ok_iff _ _ _).mp hlines
        obtain ⟨below, hbelow, hlines⟩ := (bind_eq_ok_iff _ _ _).mp hlines
        cases hlines
        refine List.forall_mem_append.mpr ⟨List.forall_mem_cons.mpr ⟨by simpa using hlabel, ?_⟩,
          ih hrest below hbelow⟩
        split
        · simp
        · exact hasOctets_describeEntries _ hentries body hbody
  obtain ⟨lines, hlines, htext⟩ := (bind_eq_ok_iff _ _ _).mp htext
  cases htext
  exact Text.hasOctets_join _ _ (Text.hasOctets_ofString _) (hlayers lines hlines)

end Scope

end Formulary
