import Formulary.Proofs.CommandLine.Run
import Formulary.Proofs.Source.Characters

namespace Formulary

namespace Text

-- The lines of a text, of which there is one more than there are line feeds
def lines (text : Text) : List Text := text.splitOn (.char '\n')

theorem lines_ne_nil (text : Text) : text.lines ≠ [] := List.splitOn_ne_nil _ _

theorem lines_of_notMem (text : Text) (h : .char '\n' ∉ text) : text.lines = [text] :=
  List.splitOn_eq_singleton h

theorem lines_append (before after : Text) :
    lines (before ++ .char '\n' :: after) = before.lines ++ after.lines :=
  List.splitOn_append_cons_self _ _

theorem length_lines_eq_one_iff (text : Text) : text.lines.length = 1 ↔ .char '\n' ∉ text := by
  refine ⟨fun hone hmem => ?_, fun h => by rw [text.lines_of_notMem h]; rfl⟩
  obtain ⟨before, after, rfl⟩ := List.append_of_mem hmem
  have hbefore := List.length_pos_iff.mpr (lines_ne_nil before)
  have hafter := List.length_pos_iff.mpr (lines_ne_nil after)
  rw [lines_append, List.length_append] at hone
  omega

theorem length_flatMap_lines_eq_iff (texts : List Text) :
    (texts.flatMap lines).length = texts.length ↔ ∀ text ∈ texts, .char '\n' ∉ text := by
  rw [(length_flatMap_eq_iff lines texts fun text _ => text.lines_ne_nil).2]
  exact forall₂_congr fun text _ => text.length_lines_eq_one_iff

theorem flatMap_lines_eq_iff (texts : List Text) :
    texts.flatMap lines = texts ↔ ∀ text ∈ texts, .char '\n' ∉ text := by
  refine ⟨fun h => (length_flatMap_lines_eq_iff texts).mp (by rw [h]), fun h => ?_⟩
  rw [List.flatMap_congr fun text ht => text.lines_of_notMem (h text ht), List.flatMap_singleton']

-- Whatever stands in a line stands in the text
theorem mem_of_mem_lines (c : CodePoint) (hc : c ≠ .char '\n') (text line : Text) (hline : line ∈ text.lines)
    (hmem : c ∈ line) : c ∈ text := by
  have hjoin : join "\n" text.lines = text := List.intercalate_splitOn _
  have hbreak : c ∉ Text.ofString "\n" := fun h => hc (List.mem_singleton.mp h)
  rw [← hjoin, mem_join_iff c _ hbreak]
  exact ⟨line, hline, hmem⟩

end Text

-- A code point stands in a string of the formula that a source writes
def WritesInText (wording : Source.Wording) (c : CodePoint) (source : Text) : Prop :=
  ∃ e, Source.Expr.ofSource wording source = .ok e ∧ e.HoldsInText c

-- There is no half of a pair in a string of the formula that a source writes
def WritesOctets (wording : Source.Wording) (source : Text) : Prop :=
  ∀ n, ¬ WritesInText wording (.half n) source

namespace Markup

section Default

variable (wording : Source.Wording) (source : Text) (m : Markup)
  (h : Markup.ofSource wording .default source = .ok m)

include h

-- What no name of the formula holds has come from a string
theorem mem_ofSource_iff (c : CodePoint) (hc : c.IsForeign)
    (hname : ∀ e, Source.Expr.ofSource wording source = .ok e → ¬ e.HoldsInName c) :
    c ∈ m.text ↔ WritesInText wording c source := by
  obtain ⟨t, ht, hm⟩ := (Markup.ofSource_eq_ok_iff wording _ _ _).mp h
  obtain ⟨e, b, he, hbuilds, rfl⟩ := Tree.builds_of_ofSource wording source t ht
  rw [Source.Expr.Builds.mem_typeset_iff c hc e b hbuilds m hm, or_iff_left (hname e he)]
  refine ⟨fun hholds => ⟨e, he, hholds⟩, ?_⟩
  rintro ⟨e', he', hholds⟩
  rwa [Except.ok.inj (he.symm.trans he')]

theorem lineFeed_mem_ofSource_iff :
    .char '\n' ∈ m.text ↔ WritesInText wording (.char '\n') source := by
  refine mem_ofSource_iff wording source m h _ CodePoint.isForeign_lineFeed fun e he => ?_
  obtain ⟨text, -, hread⟩ := Source.Expr.exists_ofText?_of_ofSource wording source e he
  exact e.not_holdsInName_lineFeed _ hread

theorem hasOctets_ofSource_iff : m.text.HasOctets ↔ WritesOctets wording source :=
  forall_congr' fun n => not_congr (mem_ofSource_iff wording source m h _ (CodePoint.isForeign_half n)
    fun e _ => e.not_holdsInName_half n)

end Default

section Row

variable (wording : Source.Wording) (sources : List Text) (ms : List Markup)
  (h : sources.mapM (Markup.ofSource wording .default) = .ok ms)

include h

-- One by one, in order
theorem forall_mem_iff (P : Markup → Prop) (Q : Text → Prop)
    (hPQ : ∀ source m, Markup.ofSource wording .default source = .ok m → (P m ↔ Q source)) :
    (∀ m ∈ ms, P m) ↔ ∀ source ∈ sources, Q source := by
  have hkeys := (mapM_eq_ok _ Q P (fun _ => True)
    (fun source m hm => ⟨propext (hPQ source m hm), trivial⟩) sources ms h).1
  have hall : (∀ p ∈ ms.map P, p) ↔ ∀ p ∈ sources.map Q, p := by rw [hkeys]
  simpa only [List.forall_mem_map] using hall

theorem length_ofSource : ms.length = sources.length := by
  have hkeys := (mapM_eq_ok _ (fun _ => ()) (fun _ => ()) (fun _ => True)
    (fun _ _ _ => ⟨rfl, trivial⟩) sources ms h).1
  simpa using congrArg List.length hkeys

-- The markup of a source in the row, and that of the sources before it
theorem ofSource_of_split (first rest : List Text) (source : Text)
    (heq : sources = first ++ source :: rest) :
    ∃ m, Markup.ofSource wording .default source = .ok m ∧ m ∈ ms ∧
      first.mapM (Markup.ofSource wording .default) = .ok (ms.take first.length) := by
  rw [heq, List.mapM_append] at h
  obtain ⟨before, hbefore, h⟩ := (bind_eq_ok_iff _ _ _).mp h
  obtain ⟨after, hafter, h⟩ := (bind_eq_ok_iff _ _ _).mp h
  rw [List.mapM_cons] at hafter
  obtain ⟨m, hm, hafter⟩ := (bind_eq_ok_iff _ _ _).mp hafter
  obtain ⟨more, -, hafter⟩ := (bind_eq_ok_iff _ _ _).mp hafter
  cases hafter
  cases h
  rw [← length_ofSource wording first before hbefore, List.take_left]
  exact ⟨m, hm, by simp, hbefore⟩

end Row

end Markup

namespace CommandLine

namespace Report

-- The lines that are printed, without what would come after the last line feed
def lines (r : Report) : List Text := r.output.lines.dropLast

theorem lines_ended (texts : List Text) : (ended texts).lines = texts.flatMap Text.lines ++ [[]] := by
  induction texts with
  | nil => rfl
  | cons text rest ih =>
      have hcons : ended (text :: rest) = text ++ .char '\n' :: ended rest := by
        simp only [ended, List.flatMap_cons, List.append_assoc]
        rfl
      rw [hcons, Text.lines_append, ih, List.flatMap_cons, List.append_assoc]

theorem lines_of_output (r : Report) (texts : List Text) (h : r.output = ended texts) :
    r.lines = texts.flatMap Text.lines := by
  rw [lines, h, lines_ended, List.dropLast_concat]

-- What is printed text by text has octets if each text has
theorem hasOctets_of_mem_lines (r : Report) (texts : List Text) (h : r.output = ended texts)
    (hoctets : ∀ text ∈ texts, text.HasOctets) : ∀ line ∈ r.lines, line.HasOctets := by
  rw [r.lines_of_output texts h]
  intro line hline n hmem
  obtain ⟨text, htext, hline⟩ := List.mem_flatMap.mp hline
  exact hoctets text htext n (Text.mem_of_mem_lines (.half n) (by simp) text line hline hmem)

end Report

section Printed

variable (wording : Source.Wording) (arguments : List Text) (o : Options) (input : String)
  (files : Files) (document : List Char) (ms : List Markup)
  (hargs : Options.ofArguments arguments = .ok o) (hquiet : o.showScope = false)
  (htable : o.table = .absent) (hdocument : o.HasDocument files document)
  (hms : (o.gathered input document).mapM (Markup.ofSource wording .default) = .ok ms)

include hargs hquiet htable hdocument hms

-- The first half of a pair in a string ends the run, and what comes before it is printed
theorem output_of_half (first rest : List Text) (source : Text)
    (heq : o.gathered input document = first ++ source :: rest)
    (hfirst : ∀ s ∈ first, WritesOctets wording s) (hhalf : ¬ WritesOctets wording source) :
    (run wording arguments input files).output =
        Report.ended ((ms.take first.length).map Markup.text) ∧
      (∀ m ∈ ms.take first.length, m.text.HasOctets) ∧
      (∃ halves, (run wording arguments input files).ending = .broken (.printing halves)) ∧
      ∃ m ∈ ms, ¬ m.text.HasOctets := by
  obtain ⟨m, hm, hmem, hprefix⟩ := Markup.ofSource_of_split wording _ ms hms first rest source heq
  have hoctets := (Markup.forall_mem_iff wording first _ hprefix _ _
    (Markup.hasOctets_ofSource_iff wording)).mpr hfirst
  have hnone := (Markup.hasOctets_ofSource_iff wording source m hm).not.mpr hhalf
  obtain ⟨halves, hstands⟩ := (Text.exists_standsIn_iff m.text).mpr hnone
  obtain ⟨houtput, hending⟩ := output_of_refusal wording arguments o input files hargs hquiet .default
    (.default htable) document hdocument _ hoctets first rest source _ heq hprefix
    (lineOf_of_standsIn wording .default source m hm halves hstands)
  exact ⟨houtput, hoctets, ⟨halves, hending⟩, m, hmem, hnone⟩

-- Where there is a half of a pair at all, there is a first one
theorem output_of_halves (h : ¬ ∀ source ∈ o.gathered input document, WritesOctets wording source) :
    (run wording arguments input files).ending ≠ .done ∧
      (run wording arguments input files).lines ≠ ms.map Markup.text := by
  classical
  obtain ⟨source, hfind⟩ : ∃ source,
      (o.gathered input document).find? (fun s => ¬ WritesOctets wording s) = some source := by
    rw [← Option.isSome_iff_exists, List.find?_isSome]
    simpa using h
  obtain ⟨hhalf, first, rest, heq, hfirst⟩ := List.find?_eq_some_iff_append.mp hfind
  obtain ⟨houtput, hoctets, ⟨halves, hending⟩, m, hmem, hnone⟩ := output_of_half wording arguments o input
    files document ms hargs hquiet htable hdocument hms first rest source heq (by simpa using hfirst)
    (by simpa using hhalf)
  refine ⟨by simp [hending], fun hlines => hnone ?_⟩
  refine Report.hasOctets_of_mem_lines _ _ houtput (List.forall_mem_map.mpr hoctets) m.text ?_
  rw [hlines]
  exact List.mem_map_of_mem hmem

end Printed

-- Under the default notation a run prints each of its expressions on a line of its own, exactly if there is
-- neither a line feed nor a half of a pair in a string of an expression. For line feeds are not escaped,
-- there are no octets for a half, and nothing else that is printed can hold either: the notation has none,
-- numbers have none, and neither has a name that is read
theorem run_prints_one_line_per_expression_iff (wording : Source.Wording) (arguments : List Text)
    (o : Options) (input : String) (files : Files) (document : List Char) (ms : List Markup)
    (hargs : Options.ofArguments arguments = .ok o) (hquiet : o.showScope = false)
    (htable : o.table = .absent) (hdocument : o.HasDocument files document)
    (hms : (o.gathered input document).mapM (Markup.ofSource wording .default) = .ok ms) :
    let report := run wording arguments input files
    let sources := o.gathered input document
    (sources ≠ [] → (report.ending = .done ↔ ∀ source ∈ sources, WritesOctets wording source)) ∧
      (report.lines = ms.map Markup.text ↔ ∀ source ∈ sources,
        WritesOctets wording source ∧ ¬ WritesInText wording (.char '\n') source) ∧
      ((∀ source ∈ sources, WritesOctets wording source) →
        (report.lines.length = sources.length ↔
          ∀ source ∈ sources, ¬ WritesInText wording (.char '\n') source)) ∧
      (∀ first source rest, sources = first ++ source :: rest →
        (∀ s ∈ first, WritesOctets wording s) → ¬ WritesOctets wording source →
        report.lines = ((ms.take first.length).map Markup.text).flatMap Text.lines ∧
          ∃ halves, report.ending = .broken (.printing halves)) ∧
      ∀ (e : Source.Expr) (t : Tree) (m : Markup), e.toTree = .ok t → t.typeset .default = .ok m →
        (.char '\n' ∈ m.text ↔ e.HoldsInText (.char '\n') ∨ e.HoldsInName (.char '\n')) := by
  intro report sources
  have hhalves := output_of_halves wording arguments o input files document ms hargs hquiet htable
    hdocument hms
  have hall (hoctets : ∀ source ∈ sources, WritesOctets wording source) :=
    output_of_markup wording arguments o input files hargs hquiet .default (.default htable) document
      hdocument ms ((Markup.forall_mem_iff wording sources ms hms _ _
        (Markup.hasOctets_ofSource_iff wording)).mpr hoctets) hms
  have hbroken : (∀ text ∈ ms.map Markup.text, .char '\n' ∉ text) ↔
      ∀ source ∈ sources, ¬ WritesInText wording (.char '\n') source := by
    rw [List.forall_mem_map]
    exact Markup.forall_mem_iff wording sources ms hms _ _ fun source m hm =>
      (Markup.lineFeed_mem_ofSource_iff wording source m hm).not
  refine ⟨fun hsome => ⟨fun hdone => ?_, fun hoctets => (hall hoctets).2 hsome⟩, ?_, fun hoctets => ?_,
    fun first source rest heq hfirst hhalf => ?_, fun e t m ht hm => ?_⟩
  · by_contra hoctets
    exact (hhalves hoctets).1 hdone
  · rw [forall₂_and]
    by_cases hoctets : ∀ source ∈ sources, WritesOctets wording source
    · rw [report.lines_of_output _ (hall hoctets).1, Text.flatMap_lines_eq_iff, hbroken,
        and_iff_right hoctets]
    · exact iff_of_false (hhalves hoctets).2 fun h => hoctets h.1
  · have hlength : (ms.map Markup.text).length = sources.length := by
      rw [List.length_map, Markup.length_ofSource wording sources ms hms]
    rw [report.lines_of_output _ (hall hoctets).1, ← hlength, Text.length_flatMap_lines_eq_iff, hbroken]
  · obtain ⟨houtput, -, hending, -⟩ := output_of_half wording arguments o input files document ms hargs
      hquiet htable hdocument hms first rest source heq hfirst hhalf
    exact ⟨report.lines_of_output _ houtput, hending⟩
  · obtain ⟨b, hbuilds, rfl⟩ := e.builds_of_toTree t ht
    exact Source.Expr.Builds.mem_typeset_iff _ CodePoint.isForeign_lineFeed e b hbuilds m hm

-- A string and a sum, a line for each
theorem run_prints_one_line_per_expression_iff_of_two :
    let wording : Source.Wording := fun _ => ⟨"invalid syntax", some 1⟩
    let sources : List Text := ["'a b'", "x + 1"]
    let report := run wording sources "" (Files.ofList [])
    (∀ source ∈ sources, WritesOctets wording source ∧ ¬ WritesInText wording (.char '\n') source) ∧
      report.ending = .done ∧ report.lines = [("a b" : Text), "x + 1"] := by
  intro wording sources report
  have hargs : Options.ofArguments sources = .ok ⟨sources, .absent, .absent, false, false⟩ := by rfl
  have hstring : Markup.ofSource wording .default "'a b'" = .ok ⟨"a b"⟩ := by decide +kernel
  have hsum : Markup.ofSource wording .default "x + 1" = .ok ⟨"x + 1"⟩ := by decide +kernel
  have hms : sources.mapM (Markup.ofSource wording .default) = .ok [⟨"a b"⟩, ⟨"x + 1"⟩] := by
    rw [List.mapM_cons, hstring, List.mapM_cons, hsum]
    rfl
  have hwritten : ∀ source ∈ sources,
      WritesOctets wording source ∧ ¬ WritesInText wording (.char '\n') source := by
    refine List.forall_mem_cons.mpr ⟨⟨?_, ?_⟩, List.forall_mem_singleton.mpr ⟨?_, ?_⟩⟩
    · exact (Markup.hasOctets_ofSource_iff wording _ _ hstring).mp (Text.hasOctets_ofString _)
    · rw [← Markup.lineFeed_mem_ofSource_iff wording _ _ hstring]
      decide
    · exact (Markup.hasOctets_ofSource_iff wording _ _ hsum).mp (Text.hasOctets_ofString _)
    · rw [← Markup.lineFeed_mem_ofSource_iff wording _ _ hsum]
      decide
  obtain ⟨hdone, hlines, -⟩ := run_prints_one_line_per_expression_iff wording sources _ ""
    (Files.ofList []) [] _ hargs rfl rfl (.none rfl) hms
  refine ⟨hwritten, (hdone ?_).mpr fun source hsource => (hwritten source hsource).1, hlines.mpr hwritten⟩
  decide +kernel

-- A string that writes its line feed as an escape is printed on two lines
theorem run_breaks_line_of_string :
    let wording : Source.Wording := fun _ => ⟨"invalid syntax", some 1⟩
    let sources : List Text := ["'a\\nb'"]
    let report := run wording sources "" (Files.ofList [])
    Options.ofArguments sources = .ok ⟨sources, .absent, .absent, false, false⟩ ∧
      sources.mapM (Markup.ofSource wording .default) = .ok [⟨"a\nb"⟩] ∧
      report.ending = .done ∧ report.lines = [("a" : Text), "b"] ∧
      report.lines.length ≠ sources.length := by
  intro wording sources report
  have hlines : report.lines = [("a" : Text), "b"] := by decide +kernel
  refine ⟨rfl, by decide +kernel, by decide +kernel, hlines, ?_⟩
  rw [hlines]
  decide

end CommandLine

end Formulary
