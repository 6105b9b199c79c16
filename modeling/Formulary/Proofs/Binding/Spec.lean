import Formulary.Binding.Spec
import Formulary.Proofs.Binding
import Formulary.Proofs.Binding.Template

namespace Formulary

-- It takes this many arguments, if it does not take any number, and sets them like this
def Rendering.Sets (r : Rendering) (arity : Option Nat) (set : List Text → Text) : Prop :=
  r.arity = arity ∧ ∀ args, (∀ n, arity = some n → args.length = n) → r.apply args = .ok (set args)

theorem Rendering.Sets.invoke_eq_ok (f : FunctionBinding) (arity : Option Nat) (set : List Text → Text)
    (h : f.rendering.Sets arity set) (args : List Text) (hargs : ∀ n, arity = some n → args.length = n) :
    f.invoke args = .ok (set args) :=
  (f.invoke_eq_ok_iff args _).mpr (h.2 args hargs)

-- The wrong number of arguments is told together with the right one, unless that is too long
theorem Rendering.Sets.invoke_eq_error (f : FunctionBinding) (arity : Option Nat)
    (set : List Text → Text) (h : f.rendering.Sets arity set) (args : List Text) (n : Nat)
    (harity : arity = some n) (hargs : args.length ≠ n) :
    f.invoke args = .error (if hasDecimalText n then .arity f.name n args.length else .longInteger) :=
  (f.invoke_eq_error_iff args _).mpr ⟨n, h.1.trans harity, hargs, rfl⟩

namespace Template

theorem sets_of_ofPattern (name pattern : Text) (arity : Option Int) (cut : Cut)
    (hcut : Cut.Of pattern cut) (t : Template) (h : ofPattern name pattern arity = .ok t) :
    (t.arity : Int) = arity.getD cut.highest ∧ (Rendering.template t).Sets (some t.arity) cut.fill := by
  obtain ⟨hpieces, harity⟩ := ofPattern_eq_ok_imp name pattern arity t h
  refine ⟨by rw [harity, (cut.slots_and_highest pattern hcut).2], rfl, fun args hargs => ?_⟩
  rw [Rendering.apply_template_eq_ok_iff, fill, hpieces, hcut.ofPattern_eq, cut.flatMap_pieces]
  exact ⟨hargs _ rfl, rfl⟩

end Template

namespace Spec

-- The ways to set arguments that can be written down
inductive Kind
  | wrap
  | between
  | template
  | variadic
  deriving DecidableEq

namespace Kind

def word : Kind → String
  | wrap => "wrap"
  | between => "infix"
  | template => "template"
  | variadic => "variadic"

-- The keys that a kind reads besides the one that names it
def keys : Kind → List String
  | wrap => ["prefix", "suffix"]
  | between => ["separator"]
  | template => ["arity", "pattern"]
  | variadic => ["prefix", "suffix", "separator"]

def build (name : Text) (spec : Spec) : Kind → Except Cause Rendering
  | wrap => spec.wrap
  | between => spec.between
  | template => spec.template name
  | variadic => spec.variadic

end Kind

def kind? (spec : Spec) : Option Kind :=
  match spec.get? "kind" with
  | some (.text word) =>
    [Kind.wrap, .between, .template, .variadic].find? fun kind => word = kind.word
  | _ => none

theorem kind?_eq_some_iff (spec : Spec) (kind : Kind) :
    spec.kind? = some kind ↔ spec.get? "kind" = some (.text kind.word) := by
  constructor
  · intro h
    unfold kind? at h
    split at h
    · rename_i word hword
      have hfound : word = kind.word := by simpa using List.find?_some h
      rw [hword, hfound]
    · cases h
  · intro h
    rw [kind?, h]
    cases kind <;> decide

theorem rendering?_eq (name : Text) (spec : Spec) :
    spec.rendering? name = spec.kind?.map fun kind => kind.build name spec := by
  cases hkind : spec.kind? with
  | some kind =>
      rw [rendering?, (kind?_eq_some_iff spec kind).mp hkind]
      cases kind <;> rfl
  | none =>
      have hother : ∀ kind : Kind, ∀ word, spec.get? "kind" = some (.text word) → word ≠ kind.word := by
        rintro kind word hword rfl
        cases hkind.symm.trans ((kind?_eq_some_iff spec kind).mpr hword)
      unfold rendering?
      split
      · rename_i word hword
        have hwrap : word ≠ "wrap" := hother .wrap word hword
        have hbetween : word ≠ "infix" := hother .between word hword
        have htemplate : word ≠ "template" := hother .template word hword
        have hvariadic : word ≠ "variadic" := hother .variadic word hword
        simp only [hwrap, hbetween, htemplate, hvariadic, if_false, Option.map_none]
      · rfl

theorem ofSpec_eq (name : Text) (spec : Spec) :
    FunctionBinding.ofSpec name spec =
      match spec.kind? with
      | none => .error (spec.unknownKind name)
      | some kind =>
        match kind.build name spec with
        | .error cause => .error (.field name cause)
        | .ok r => .ok ⟨name, r⟩ := by
  rw [FunctionBinding.ofSpec, rendering?_eq]
  cases spec.kind? with
  | none => rfl
  | some kind => cases h : kind.build name spec <;> simp [h]

theorem ofSpec_eq_ok_iff (name : Text) (spec : Spec) (f : FunctionBinding) :
    FunctionBinding.ofSpec name spec = .ok f ↔
      ∃ kind : Kind, spec.get? "kind" = some (.text kind.word) ∧
        ∃ r, kind.build name spec = .ok r ∧ f = ⟨name, r⟩ := by
  simp only [ofSpec_eq, ← kind?_eq_some_iff]
  cases spec.kind? with
  | none => simp
  | some kind => cases h : kind.build name spec <;> simp [h, eq_comm]

-- The text under a key, or the one that stands for an absent one
def HasText (spec : Spec) (key : String) (absent : Option Text) (text : Text) : Prop :=
  spec.get? key = some (.text text) ∨ spec.get? key = none ∧ absent = some text

-- The declared arity. A void one is none, and truth values are no integers here
def HasArity (spec : Spec) : Option Int → Prop
  | none => spec.get? "arity" = none ∨ spec.get? "arity" = some .none
  | some n => spec.get? "arity" = some (.integer n)

theorem text_eq_ok_iff (spec : Spec) (key : String) (absent : Option Text) (text : Text) :
    spec.text key absent = .ok text ↔ spec.HasText key absent text := by
  unfold Spec.text HasText
  split <;> simp_all

theorem arity_eq_ok_iff (spec : Spec) (arity : Option Int) :
    spec.arity = .ok arity ↔ spec.HasArity arity := by
  unfold Spec.arity
  split <;> cases arity <;> simp_all [HasArity]

-- What a description says: how many arguments are taken, if that is fixed, and how they are set
inductive Describes (spec : Spec) : Option Nat → (List Text → Text) → Prop
  | wrap (before after : Text) (hkind : spec.get? "kind" = some (.text "wrap"))
      (hbefore : spec.HasText "prefix" none before) (hafter : spec.HasText "suffix" (some []) after) :
      Describes spec (some 1) fun args => before ++ args.getD 0 [] ++ after
  | between (separator : Text) (hkind : spec.get? "kind" = some (.text "infix"))
      (hseparator : spec.HasText "separator" none separator) :
      Describes spec (some 2) fun args => args.getD 0 [] ++ separator ++ args.getD 1 []
  | template (pattern : Text) (cut : Cut) (arity : Option Int) (n : Nat)
      (hkind : spec.get? "kind" = some (.text "template"))
      (hpattern : spec.HasText "pattern" none pattern) (harity : spec.HasArity arity)
      (hcut : Cut.Of pattern cut) (hzero : 0 ∉ cut.numbers) (hle : cut.highest ≤ n)
      (hn : n = arity.getD cut.highest) : Describes spec (some n) cut.fill
  | variadic (before after separator : Text) (hkind : spec.get? "kind" = some (.text "variadic"))
      (hbefore : spec.HasText "prefix" none before) (hafter : spec.HasText "suffix" (some []) after)
      (hseparator : spec.HasText "separator" (some ", ") separator) :
      Describes spec none fun args => before ++ Text.join separator args ++ after

theorem wrap_eq_ok_iff (spec : Spec) (r : Rendering) :
    spec.wrap = .ok r ↔ ∃ before, spec.HasText "prefix" none before ∧
      ∃ after, spec.HasText "suffix" (some []) after ∧ r = .wrap before after := by
  simp only [wrap, bind_eq_ok_iff, text_eq_ok_iff, pure, Except.pure, Except.ok.injEq, @eq_comm _ r]

theorem between_eq_ok_iff (spec : Spec) (r : Rendering) :
    spec.between = .ok r ↔
      ∃ separator, spec.HasText "separator" none separator ∧ r = .between separator := by
  simp only [between, bind_eq_ok_iff, text_eq_ok_iff, pure, Except.pure, Except.ok.injEq, @eq_comm _ r]

theorem variadic_eq_ok_iff (spec : Spec) (r : Rendering) :
    spec.variadic = .ok r ↔ ∃ before, spec.HasText "prefix" none before ∧
      ∃ after, spec.HasText "suffix" (some []) after ∧
        ∃ separator, spec.HasText "separator" (some ", ") separator ∧
          r = .variadic before after separator := by
  simp only [variadic, bind_eq_ok_iff, text_eq_ok_iff, pure, Except.pure, Except.ok.injEq, @eq_comm _ r]

theorem template_eq_ok_iff (name : Text) (spec : Spec) (r : Rendering) :
    spec.template name = .ok r ↔ ∃ arity, spec.HasArity arity ∧ ∃ pattern,
      spec.HasText "pattern" none pattern ∧
        ∃ t, Template.ofPattern name pattern arity = .ok t ∧ r = .template t := by
  simp only [template, bind_eq_ok_iff, arity_eq_ok_iff, text_eq_ok_iff]
  refine exists_congr fun arity => and_congr_right fun _ => exists_congr fun pattern =>
    and_congr_right fun _ => ?_
  cases Template.ofPattern name pattern arity with
  | ok t => simp [pure, Except.pure, eq_comm]
  | error fault => simp [throw, throwThe, MonadExceptOf.throw]

-- What is described is built
theorem Describes.build (name : Text) (spec : Spec) (arity : Option Nat) (set : List Text → Text)
    (h : spec.Describes arity set) :
    ∃ kind : Kind, spec.get? "kind" = some (.text kind.word) ∧
      ∃ r, kind.build name spec = .ok r ∧ r.style = kind.word ∧ r.Sets arity set := by
  cases h with
  | wrap before after hkind hbefore hafter =>
      refine ⟨.wrap, hkind, .wrap before after, ?_, rfl, rfl, fun args hargs => ?_⟩
      · exact (wrap_eq_ok_iff _ _).mpr ⟨before, hbefore, after, hafter, rfl⟩
      · match args, hargs 1 rfl with
        | [_], _ => rfl
  | between separator hkind hseparator =>
      refine ⟨.between, hkind, .between separator, ?_, rfl, rfl, fun args hargs => ?_⟩
      · exact (between_eq_ok_iff _ _).mpr ⟨separator, hseparator, rfl⟩
      · match args, hargs 2 rfl with
        | [_, _], _ => rfl
  | template pattern cut declared n hkind hpattern harity hcut hzero hle hn =>
      have hlow : ∀ m, declared = some m → cut.highest ≤ m := by
        rintro m rfl
        exact Int.le_trans (Int.ofNat_le.mpr hle) (Int.le_of_eq hn)
      obtain ⟨t, ht⟩ := (Template.ofPattern_isOk_iff name pattern declared cut hcut).mpr ⟨hzero, hlow⟩
      obtain ⟨hcount, hsets⟩ := Template.sets_of_ofPattern name pattern declared cut hcut t ht
      obtain rfl := Int.ofNat.inj (hn.trans hcount.symm)
      refine ⟨.template, hkind, .template t, ?_, rfl, hsets⟩
      exact (template_eq_ok_iff _ _ _).mpr ⟨declared, harity, pattern, hpattern, t, ht, rfl⟩
  | variadic before after separator hkind hbefore hafter hseparator =>
      refine ⟨.variadic, hkind, .variadic before after separator, ?_, rfl, rfl, fun args _ => rfl⟩
      exact (variadic_eq_ok_iff _ _).mpr ⟨before, hbefore, after, hafter, separator, hseparator, rfl⟩

-- What is built is described
theorem exists_describes (name : Text) (spec : Spec) (kind : Kind)
    (hkind : spec.get? "kind" = some (.text kind.word)) (r : Rendering)
    (h : kind.build name spec = .ok r) : ∃ arity set, spec.Describes arity set := by
  cases kind with
  | wrap =>
      obtain ⟨before, hbefore, after, hafter, -⟩ := (wrap_eq_ok_iff _ _).mp h
      exact ⟨_, _, .wrap before after hkind hbefore hafter⟩
  | between =>
      obtain ⟨separator, hseparator, -⟩ := (between_eq_ok_iff _ _).mp h
      exact ⟨_, _, .between separator hkind hseparator⟩
  | template =>
      obtain ⟨arity, harity, pattern, hpattern, t, ht, -⟩ := (template_eq_ok_iff _ _ _).mp h
      obtain ⟨cut, hcut⟩ : ∃ cut, Cut.Of pattern cut := ⟨_, Cut.of_ofPattern pattern⟩
      obtain ⟨hzero, hlow⟩ := (Template.ofPattern_isOk_iff name pattern arity cut hcut).mp ⟨t, ht⟩
      obtain ⟨hcount, -⟩ := Template.sets_of_ofPattern name pattern arity cut hcut t ht
      refine ⟨_, _, .template pattern cut arity t.arity hkind hpattern harity hcut hzero ?_ hcount⟩
      cases arity with
      | none => exact Int.ofNat_le.mp (Int.le_of_eq hcount.symm)
      | some m => exact Int.ofNat_le.mp (hcount ▸ hlow m rfl)
  | variadic =>
      obtain ⟨before, hbefore, after, hafter, separator, hseparator, -⟩ := (variadic_eq_ok_iff _ _).mp h
      exact ⟨_, _, .variadic before after separator hkind hbefore hafter hseparator⟩

-- What there is to say against the value of a key that holds a text
def textCauses (spec : Spec) (key : String) (absent : Option Text) : List Cause :=
  match spec.get? key with
  | some (.text _) => []
  | some _ => [.notText key]
  | none => if absent = none then [.missing key] else []

def arityCauses (spec : Spec) : List Cause :=
  match spec.get? "arity" with
  | none | some .none | some (.integer _) => []
  | some _ => [.arityNotInteger]

def slotCauses (name : Text) (spec : Spec) : List Cause :=
  match spec.arity, spec.text "pattern" none with
  | .ok arity, .ok pattern => (Template.slotFaults name pattern arity).map .template
  | _, _ => []

-- The causes for which a kind refuses a description, in the order in which it comes upon them
def Kind.causes (name : Text) (spec : Spec) : Kind → List Cause
  | wrap => spec.textCauses "prefix" none ++ spec.textCauses "suffix" (some [])
  | between => spec.textCauses "separator" none
  | template => spec.arityCauses ++ (spec.textCauses "pattern" none ++ spec.slotCauses name)
  | variadic =>
    spec.textCauses "prefix" none ++
      (spec.textCauses "suffix" (some []) ++ spec.textCauses "separator" (some ", "))

def faults (name : Text) (spec : Spec) : List Fault :=
  match spec.kind? with
  | none => [spec.unknownKind name]
  | some kind => (kind.causes name spec).map (.field name)

theorem reports_text (spec : Spec) (key : String) (absent : Option Text) :
    Reports (spec.text key absent) (spec.textCauses key absent) := by
  unfold Spec.text textCauses
  cases spec.get? key with
  | none =>
      cases absent with
      | none => exact Reports.error _
      | some text => exact Reports.ok text
  | some v =>
      cases v with
      | text s => exact Reports.ok s
      | _ => exact Reports.error _

theorem reports_arity (spec : Spec) : Reports spec.arity spec.arityCauses := by
  unfold Spec.arity arityCauses
  cases spec.get? "arity" with
  | none => exact Reports.ok none
  | some v =>
      cases v with
      | none => exact Reports.ok none
      | integer n => exact Reports.ok (some n)
      | _ => exact Reports.error _

theorem reports_template (name : Text) (spec : Spec) :
    Reports (spec.template name) (Kind.causes name spec .template) := by
  refine spec.reports_arity.bind _ _ _ _ fun arity harity => ?_
  refine (spec.reports_text "pattern" none).bind _ _ _ _ fun pattern hpattern => ?_
  rw [slotCauses, harity, hpattern]
  refine (Template.reports_ofPattern name pattern arity).retold _ _ _ _ (fun t ht => ?_) fun fault hfault => ?_
  · rw [ht]
    exact ⟨.template t, rfl⟩
  · rw [hfault]
    rfl

theorem reports_build (name : Text) (spec : Spec) (kind : Kind) :
    Reports (kind.build name spec) (kind.causes name spec) := by
  cases kind with
  | wrap =>
      refine (spec.reports_text "prefix" none).bind _ _ _ _ fun before _ => ?_
      exact (spec.reports_text "suffix" (some [])).map _ (Rendering.wrap before) _
  | between => exact (spec.reports_text "separator" none).map _ Rendering.between _
  | template => exact spec.reports_template name
  | variadic =>
      refine (spec.reports_text "prefix" none).bind _ _ _ _ fun before _ => ?_
      refine (spec.reports_text "suffix" (some [])).bind _ _ _ _ fun after _ => ?_
      exact (spec.reports_text "separator" (some ", ")).map _ (Rendering.variadic before after) _

theorem reports_ofSpec (name : Text) (spec : Spec) :
    Reports (FunctionBinding.ofSpec name spec) (spec.faults name) := by
  rw [ofSpec_eq, faults]
  cases spec.kind? with
  | none => exact Reports.error _
  | some kind =>
      refine (spec.reports_build name kind).retold _ _ _ _ (fun r hr => ?_) fun cause hcause => ?_
      · simp only [hr]
        exact ⟨⟨name, r⟩, rfl⟩
      · simp only [hcause]

-- The keys that are looked at
def inspected (spec : Spec) : List String :=
  "kind" :: match spec.kind? with
    | none => []
    | some kind => kind.keys

theorem text_congr (spec spec' : Spec) (key : String) (absent : Option Text)
    (h : spec'.get? key = spec.get? key) : spec'.text key absent = spec.text key absent := by
  unfold Spec.text
  rw [h]

theorem build_congr (name : Text) (spec spec' : Spec) (kind : Kind)
    (h : ∀ key ∈ kind.keys, spec'.get? key = spec.get? key) :
    kind.build name spec' = kind.build name spec := by
  have htext : ∀ key ∈ kind.keys, ∀ absent, spec'.text key absent = spec.text key absent :=
    fun key hkey absent => spec.text_congr spec' key absent (h key hkey)
  cases kind with
  | wrap =>
      simp only [Kind.build, Spec.wrap, htext "prefix" (by decide), htext "suffix" (by decide)]
  | between => simp only [Kind.build, Spec.between, htext "separator" (by decide)]
  | template =>
      have harity : spec'.arity = spec.arity := by
        unfold Spec.arity
        rw [h "arity" (by decide)]
      simp only [Kind.build, Spec.template, harity, htext "pattern" (by decide)]
  | variadic =>
      simp only [Kind.build, Spec.variadic, htext "prefix" (by decide), htext "suffix" (by decide),
        htext "separator" (by decide)]

theorem ofSpec_congr (name : Text) (spec spec' : Spec)
    (h : ∀ key ∈ spec.inspected, spec'.get? key = spec.get? key) :
    FunctionBinding.ofSpec name spec' = FunctionBinding.ofSpec name spec := by
  obtain ⟨hword, hkeys⟩ := List.forall_mem_cons.mp h
  have hkind : spec'.kind? = spec.kind? := by rw [kind?, hword, ← kind?]
  rw [ofSpec_eq, ofSpec_eq, hkind]
  cases hk : spec.kind? with
  | none => rw [unknownKind, hword, ← unknownKind]
  | some kind =>
      rw [hk] at hkeys
      simp only [build_congr name spec spec' kind hkeys]

theorem ofSpec_isOk_iff (name : Text) (spec : Spec) :
    (∃ f, FunctionBinding.ofSpec name spec = .ok f) ↔ ∃ arity set, spec.Describes arity set := by
  constructor
  · rintro ⟨f, h⟩
    obtain ⟨kind, hkind, r, hr, -⟩ := (ofSpec_eq_ok_iff name spec f).mp h
    exact exists_describes name spec kind hkind r hr
  · rintro ⟨arity, set, h⟩
    obtain ⟨kind, hkind, r, hr, -⟩ := h.build name
    exact ⟨_, (ofSpec_eq_ok_iff name spec _).mpr ⟨kind, hkind, r, hr, rfl⟩⟩

-- A description has one kind, so the function built is the one described
theorem Describes.sets (name : Text) (spec : Spec) (arity : Option Nat) (set : List Text → Text)
    (h : spec.Describes arity set) (f : FunctionBinding)
    (hf : FunctionBinding.ofSpec name spec = .ok f) :
    f.name = name ∧ spec.get? "kind" = some (.text f.rendering.style) ∧ f.rendering.Sets arity set := by
  obtain ⟨kind, hkind, r, hr, hstyle, hsets⟩ := h.build name
  have hbuilt := (ofSpec_eq_ok_iff name spec _).mpr ⟨kind, hkind, r, hr, rfl⟩
  obtain rfl := Except.ok.inj (hf.symm.trans hbuilt)
  exact ⟨rfl, hstyle ▸ hkind, hsets⟩

-- The descriptions that say how to set arguments are accepted and no others, and the function sets its
-- arguments like that. A wrong number of them is refused with the right one, unless that is too long to be
-- told. Only the keys that the kind reads matter, and a description is refused for the first fault in it
theorem ofSpec_builds_as_described (name : Text) (spec : Spec) :
    ((∃ f, FunctionBinding.ofSpec name spec = .ok f) ↔ ∃ arity set, spec.Describes arity set) ∧
    (∀ f arity set, FunctionBinding.ofSpec name spec = .ok f → spec.Describes arity set →
      f.name = name ∧ f.rendering.arity = arity ∧ spec.get? "kind" = some (.text f.rendering.style) ∧
      (∀ args, (∀ n, arity = some n → args.length = n) → f.invoke args = .ok (set args)) ∧
      ∀ args n, arity = some n → args.length ≠ n → f.invoke args =
        .error (if hasDecimalText n then .arity name n args.length else .longInteger)) ∧
    (∀ spec' : Spec, (∀ key ∈ spec.inspected, spec'.get? key = spec.get? key) →
      FunctionBinding.ofSpec name spec' = FunctionBinding.ofSpec name spec) ∧
    Reports (FunctionBinding.ofSpec name spec) (spec.faults name) := by
  refine ⟨ofSpec_isOk_iff name spec, fun f arity set hf h => ?_, ofSpec_congr name spec,
    reports_ofSpec name spec⟩
  obtain ⟨hname, hstyle, hsets⟩ := h.sets name spec arity set f hf
  refine ⟨hname, hsets.1, hstyle, hsets.invoke_eq_ok, fun args n harity hargs => ?_⟩
  rw [hsets.invoke_eq_error f arity set args n harity hargs, hname]

-- The arity is above the highest slot, and keys that a template has no use for hold anything
theorem ofSpec_builds_as_described_of_spare_keys :
    let spec : Spec := .ofList [("prefix", .none), ("arity", .integer 3), ("kind", .text "template"),
      ("separator", .integer 5), ("pattern", .text "#2+#1")]
    ∃ f, FunctionBinding.ofSpec "f" spec = .ok f ∧ f.invoke ["a", "b", "c"] = .ok "b+a" ∧
      f.invoke ["a", "b"] = .error (.arity "f" 3 2) := by
  intro spec
  obtain ⟨haccepts, hbuilds, -⟩ := ofSpec_builds_as_described "f" spec
  have h : spec.Describes (some 3) (Cut.ofPieces (Piece.ofPattern "#2+#1")).fill :=
    .template "#2+#1" _ (some 3) 3 rfl (.inl rfl) rfl (Cut.of_ofPattern _) (by decide +kernel)
      (by decide +kernel) rfl
  obtain ⟨f, hf⟩ := haccepts.mpr ⟨_, _, h⟩
  obtain ⟨-, -, -, hset, hrefuses⟩ := hbuilds f _ _ hf h
  refine ⟨f, hf, (hset ["a", "b", "c"] (by simp)).trans (congrArg Except.ok (by decide +kernel)), ?_⟩
  rw [hrefuses ["a", "b"] 3 rfl (by decide), if_pos (by decide +kernel)]
  rfl

-- An arity of 4301 digits is described, and the wrong number of arguments is not told
theorem ofSpec_hides_arity_of_long_number :
    let spec : Spec := .ofList [("kind", .text "template"), ("pattern", .text "x"),
      ("arity", .integer (Nat.pow 10 4300))]
    spec.Describes (some (Nat.pow 10 4300)) (Cut.fill ⟨[], "x"⟩) ∧
      ∃ f, FunctionBinding.ofSpec "f" spec = .ok f ∧ f.invoke [] = .error .longInteger := by
  intro spec
  have h : spec.Describes (some (Nat.pow 10 4300)) (Cut.fill ⟨[], "x"⟩) :=
    .template "x" _ (some (Nat.pow 10 4300)) _ rfl (.inl rfl) rfl ((Cut.of_iff "x" _).mpr rfl) (by decide)
      (Nat.zero_le _) rfl
  obtain ⟨f, hf⟩ := (ofSpec_isOk_iff "f" spec).mpr ⟨_, _, h⟩
  obtain ⟨-, -, hsets⟩ := h.sets "f" spec _ _ f hf
  have hpos : 0 ≠ Nat.pow 10 4300 := by decide +kernel
  have hlong : hasDecimalText (Nat.pow 10 4300) = false := by decide +kernel
  refine ⟨h, f, hf, ?_⟩
  rw [hsets.invoke_eq_error f _ _ [] _ rfl hpos, hlong]
  rfl

end Spec

end Formulary
