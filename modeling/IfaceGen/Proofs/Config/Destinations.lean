import IfaceGen.Proofs.Config.Violations

/-!
# Destinations of packages

The path of an output file is a template, in which every hole is filled with the name of the
package. Two names that fill it in the same way have the same length, and so they stand at the same
place in the text. The names are identifiers, which bring no slashes and no dots into a path:
what belongs to which component, and what is dropped from the path as a single dot, depends on the
template alone.

## Key results

- `fillTemplate_inj`: a template with a hole tells names apart
- `split_fillTemplate`: the slashes of a filled template are those of the template
- `components_fillTemplate`: the components of a filled template
- `Config.components_destination_ne`: packages with different names have different destinations
-/

namespace IfaceGen

/-! ## Components of paths -/

/-- The names on a path without single dots. A dot at the start of a relative path stays. -/
def dropDots {α : Type} [DecidableEq α] (dot : α) (absolute : Bool) (names : List α) : List α :=
  if absolute then names.filter (· ≠ dot)
  else names.take 1 ++ (names.drop 1).filter (· ≠ dot)

/-- The components of a path: the root, if it starts there, and the names on it. Paths are equal if
    their components are: slashes that follow one another count as one, those at the end do not
    count, and neither do single dots, except at the start. -/
def Path.components (path : String) : List String :=
  (if isAbsolute path then ["/"] else []) ++ dropDots "." (isAbsolute path) (names path)

example : Path.components "./a//b/./c/" = [".", "a", "b", "c"] := by decide +kernel

section dropDots

variable {α β : Type} [DecidableEq α] [DecidableEq β] {dot : α} {absolute : Bool} {names : List α}

/-- Only dots are dropped by `dropDots`. -/
theorem mem_dropDots {name : α} (h : name ∈ names) (hdot : name ≠ dot) :
    name ∈ dropDots dot absolute names := by
  unfold dropDots
  split
  · exact List.mem_filter.2 ⟨h, decide_eq_true hdot⟩
  · rw [← List.take_append_drop 1 names, List.mem_append] at h
    rcases h with h | h
    · exact List.mem_append_left _ h
    · exact List.mem_append_right _ (List.mem_filter.2 ⟨h, decide_eq_true hdot⟩)

/-- A function that tells dots from other names may be applied before or after `dropDots`. -/
theorem dropDots_map {f : α → β} (h : ∀ name, f name = f dot ↔ name = dot) :
    dropDots (f dot) absolute (names.map f) = (dropDots dot absolute names).map f := by
  have hfilter (names : List α) :
      (names.map f).filter (· ≠ f dot) = (names.filter (· ≠ dot)).map f := by
    rw [List.filter_map]
    congr 1
    exact List.filter_congr fun name _ => by simp only [Function.comp_apply, ne_eq, h]
  unfold dropDots
  split
  · exact hfilter names
  · rw [List.map_append, List.map_take, ← List.map_drop, hfilter]

end dropDots

/-! ## Filling a template -/

section fillTemplate

variable {name other : List Char} {parts : List (Option Char)}

theorem fillTemplate_none (name : List Char) (parts : List (Option Char)) :
    fillTemplate name (none :: parts) = name ++ fillTemplate name parts := List.flatMap_cons

theorem fillTemplate_some (name : List Char) (c : Char) (parts : List (Option Char)) :
    fillTemplate name (some c :: parts) = c :: fillTemplate name parts := List.flatMap_cons

/-- A text in front of a template stays as it is under `fillTemplate`. -/
theorem fillTemplate_map_append (name text : List Char) (parts : List (Option Char)) :
    fillTemplate name (text.map some ++ parts) = text ++ fillTemplate name parts := by
  induction text with
  | nil => rfl
  | cons c text ih => rw [List.map_cons, List.cons_append, fillTemplate_some, ih, List.cons_append]

/-- Every hole that `fillTemplate` fills is as long as the name. -/
theorem length_fillTemplate (name : List Char) (parts : List (Option Char)) :
    (fillTemplate name parts).length =
      (parts.filter (·.isSome)).length + parts.count none * name.length := by
  induction parts with
  | nil => rw [fillTemplate, List.flatMap_nil, List.count_nil, Nat.zero_mul]; rfl
  | cons part parts ih =>
    -- A hole adds the length of the name, and a character adds one.
    cases part with
    | none =>
      rw [fillTemplate_none, List.length_append, ih, List.count_cons_self, Nat.succ_mul,
        List.filter_cons_of_neg (by simp)]
      omega
    | some c =>
      rw [fillTemplate_some, List.length_cons, ih, List.count_cons_of_ne (by simp),
        List.filter_cons_of_pos (by simp), List.length_cons]
      omega

/-- A template with a hole tells names apart: `fillTemplate` is injective in the name. -/
theorem fillTemplate_inj (hhole : none ∈ parts)
    (h : fillTemplate name parts = fillTemplate other parts) : name = other := by
  have hlength : name.length = other.length := by
    have htotal := congrArg List.length h
    rw [length_fillTemplate, length_fillTemplate, Nat.add_left_cancel_iff] at htotal
    exact Nat.eq_of_mul_eq_mul_left (List.count_pos_iff.2 hhole) htotal
  -- Names of one length are compared at the first hole.
  induction parts with
  | nil => exact nomatch hhole
  | cons part parts ih =>
    cases part with
    | none =>
      rw [fillTemplate_none, fillTemplate_none] at h
      exact (List.append_inj h hlength).1
    | some c =>
      rw [fillTemplate_some, fillTemplate_some, List.cons_inj_right] at h
      exact ih ((List.mem_cons.1 hhole).resolve_left (nomatch ·)) h

end fillTemplate

/-! ## The components of a filled template -/

/-- A text that stands inside one component of a path and makes no single dot of it. -/
structure PathWord (name : List Char) : Prop where
  nonempty : name ≠ []
  slash : '/' ∉ name
  dot : '.' ∉ name

theorem IsGoIdentifier.pathWord {name : String} (h : IsGoIdentifier name) :
    PathWord name.toList := by
  refine ⟨fun hnil => ?_, fun hslash => ?_, fun hdot => ?_⟩
  · obtain ⟨first, rest, hname, -⟩ := h.start
    rw [hnil] at hname
    cases hname
  · exact absurd (h.inside _ hslash) (by decide +kernel)
  · exact absurd (h.inside _ hdot) (by decide +kernel)

/-- A `PathWord` starts with a character that is neither a slash nor a dot. -/
theorem PathWord.exists_eq_cons {name : List Char} (h : PathWord name) :
    ∃ c rest, name = c :: rest ∧ c ≠ '/' ∧ c ≠ '.' := by
  obtain ⟨c, rest, rfl⟩ := List.exists_cons_of_ne_nil h.nonempty
  exact ⟨c, rest, rfl, (List.ne_of_not_mem_cons h.slash).symm,
    (List.ne_of_not_mem_cons h.dot).symm⟩

/-- The parts of a template between its slashes. -/
def segments : List (Option Char) → List (List (Option Char))
  | [] => [[]]
  | part :: parts =>
    if part = some '/' then [] :: segments parts
    else match segments parts with
      | [] => [[part]]
      | first :: others => (part :: first) :: others

theorem exists_segments_eq_cons (parts : List (Option Char)) :
    ∃ first others, segments parts = first :: others := by
  cases parts with
  | nil => exact ⟨[], [], rfl⟩
  | cons part parts =>
    rw [segments]
    split
    · exact ⟨_, _, rfl⟩
    · split
      · exact ⟨_, _, rfl⟩
      · exact ⟨_, _, rfl⟩

/-- Every hole of a template is in one of its `segments`. -/
theorem exists_mem_segments {parts : List (Option Char)} (h : none ∈ parts) :
    ∃ segment ∈ segments parts, none ∈ segment := by
  induction parts with
  | nil => exact nomatch h
  | cons part parts ih =>
    obtain ⟨first, others, hsegments⟩ := exists_segments_eq_cons parts
    rw [segments, hsegments]
    -- The hole stands at the front, where it is no slash, or further back.
    rcases List.mem_cons.1 h with rfl | h
    · rw [if_neg (nomatch ·)]
      exact ⟨none :: first, List.mem_cons_self, List.mem_cons_self⟩
    · obtain ⟨segment, hsegment, hhole⟩ := ih h
      rw [hsegments] at hsegment
      split
      · exact ⟨segment, List.mem_cons_of_mem _ hsegment, hhole⟩
      · rcases List.mem_cons.1 hsegment with rfl | hsegment
        · exact ⟨part :: segment, List.mem_cons_self, List.mem_cons_of_mem _ hhole⟩
        · exact ⟨segment, List.mem_cons_of_mem _ hsegment, hhole⟩

/-- A text without slashes that is put in front belongs to the first part of `Text.split`. -/
theorem split_append {text : List Char} (h : '/' ∉ text) {rest first : List Char}
    {others : List (List Char)} (hrest : Text.split '/' rest = first :: others) :
    Text.split '/' (text ++ rest) = (text ++ first) :: others := by
  induction text with
  | nil => exact hrest
  | cons c text ih =>
    rw [List.mem_cons, not_or] at h
    rw [List.cons_append, Text.split, if_neg (Ne.symm h.1), ih h.2, List.cons_append]

section PathWord

variable {name : List Char}

/-- The slashes of a filled template are those of the template: `Text.split` finds its `segments`,
    each of them filled. -/
theorem split_fillTemplate (hname : PathWord name) (parts : List (Option Char)) :
    Text.split '/' (fillTemplate name parts) = (segments parts).map (fillTemplate name) := by
  induction parts with
  | nil => rfl
  | cons part parts ih =>
    obtain ⟨first, others, hsegments⟩ := exists_segments_eq_cons parts
    rw [hsegments, List.map_cons] at ih
    rw [segments, hsegments]
    -- A hole is filled with a text without slashes, which stays within one part.
    cases part with
    | none =>
      rw [fillTemplate_none, split_append hname.slash ih, if_neg (nomatch ·), List.map_cons,
        fillTemplate_none]
    | some c =>
      rw [fillTemplate_some, Text.split, ih]
      by_cases hc : c = '/'
      · rw [if_pos hc, if_pos (congrArg some hc), List.map_cons, List.map_cons]
        rfl
      · rw [if_neg hc, if_neg (by simpa using hc), List.map_cons, fillTemplate_some]

/-- Only an empty template is filled to an empty text, as a `PathWord` is not empty. -/
theorem fillTemplate_eq_nil_iff (hname : PathWord name) {parts : List (Option Char)} :
    fillTemplate name parts = [] ↔ parts = [] := by
  cases parts with
  | nil => exact iff_of_true rfl rfl
  | cons part parts =>
    refine iff_of_false (fun h => ?_) (List.cons_ne_nil _ _)
    cases part with
    | none => exact hname.nonempty (List.append_eq_nil_iff.1 h).1
    | some c => exact nomatch h

/-- Only a single dot is filled to a single dot, as a `PathWord` has no dots. -/
theorem fillTemplate_eq_dot_iff (hname : PathWord name) {parts : List (Option Char)} :
    fillTemplate name parts = ['.'] ↔ parts = [some '.'] := by
  cases parts with
  | nil => exact iff_of_false (nomatch ·) (nomatch ·)
  | cons part parts =>
    cases part with
    | none =>
      -- The name in the first hole starts with no dot.
      obtain ⟨c, rest, rfl, -, hc⟩ := hname.exists_eq_cons
      refine iff_of_false (fun h => ?_) (by simp)
      rw [fillTemplate_none, List.cons_append, List.cons.injEq] at h
      exact hc h.1
    | some c =>
      rw [fillTemplate_some, List.cons.injEq, fillTemplate_eq_nil_iff hname, List.cons.injEq,
        Option.some_inj]

/-- A filled template starts at the root if the template does, as a `PathWord` has no slashes. -/
theorem head?_fillTemplate_eq_slash_iff (hname : PathWord name) {parts : List (Option Char)} :
    (fillTemplate name parts).head? = some '/' ↔ parts.head? = some (some '/') := by
  cases parts with
  | nil => exact iff_of_false (nomatch ·) (nomatch ·)
  | cons part parts =>
    cases part with
    | none =>
      -- The name in the first hole starts with no slash.
      obtain ⟨c, rest, rfl, hc, -⟩ := hname.exists_eq_cons
      refine iff_of_false (fun h => ?_) (by simp)
      rw [fillTemplate_none, List.cons_append, List.head?_cons, Option.some_inj] at h
      exact hc h
    | some c =>
      rw [fillTemplate_some, List.head?_cons, List.head?_cons, Option.some_inj, Option.some_inj,
        Option.some_inj]

/-- The `segments` of a template that become components of a path. -/
def namedSegments (parts : List (Option Char)) : List (List (Option Char)) :=
  dropDots [some '.'] (parts.head? = some (some '/')) ((segments parts).filter (· ≠ []))

/-- A part with a hole is among the `namedSegments`. -/
theorem exists_mem_namedSegments {parts : List (Option Char)} (h : none ∈ parts) :
    ∃ segment ∈ namedSegments parts, none ∈ segment := by
  obtain ⟨segment, hsegment, hhole⟩ := exists_mem_segments h
  refine ⟨segment, mem_dropDots (List.mem_filter.2 ⟨hsegment, ?_⟩) (fun hdot => ?_), hhole⟩
  · exact decide_eq_true (List.ne_nil_of_mem hhole)
  · rw [hdot] at hhole
    simp at hhole

/-- The `Path.components` of a filled template are the `namedSegments` of the template, each of them
    filled. -/
theorem components_fillTemplate (hname : PathWord name) (parts : List (Option Char)) :
    Path.components (String.ofList (fillTemplate name parts)) =
      (if parts.head? = some (some '/') then ["/"] else []) ++
        (namedSegments parts).map fun segment => String.ofList (fillTemplate name segment) := by
  -- Filling changes neither whether the path is absolute, nor which names are empty or dots.
  have habsolute : Path.isAbsolute (String.ofList (fillTemplate name parts)) =
      decide (parts.head? = some (some '/')) := by
    rw [Path.isAbsolute, String.toList_ofList]
    exact decide_eq_decide.2 (head?_fillTemplate_eq_slash_iff hname)
  have hnames : Path.names (String.ofList (fillTemplate name parts)) =
      ((segments parts).filter (· ≠ [])).map fun segment =>
        String.ofList (fillTemplate name segment) := by
    rw [Path.names, String.toList_ofList, split_fillTemplate hname, List.filter_map,
      List.map_map]
    congr 1
    refine List.filter_congr fun segment _ => ?_
    rw [Function.comp_apply, Bool.eq_iff_iff]
    simp [fillTemplate_eq_nil_iff hname]
  have hdots (segment : List (Option Char)) : String.ofList (fillTemplate name segment) =
      String.ofList (fillTemplate name [some '.']) ↔ segment = [some '.'] := by
    rw [String.ofList_inj]
    exact fillTemplate_eq_dot_iff hname
  rw [Path.components, habsolute, hnames, namedSegments, ← dropDots_map hdots]
  simp only [decide_eq_true_eq]
  rfl

end PathWord

/-! ## Destinations -/

/-- The path of the output files, with holes for the name of the package. -/
def Config.destinationTemplate (config : Config) : List (Option Char) :=
  let dir := config.output.dir.toList
  let file := template config.output.filename.toList
  if file.head? = some (some '/') || config.output.dir.isEmpty then file
  else if dir.getLast? = some '/' then dir.map some ++ file
  else dir.map some ++ some '/' :: file

namespace Config

variable {config : Config}

/-- The destination of a package, as one `Config.destinationTemplate` with the name of the package
    in its holes. -/
theorem destination_eq {name : String} (hname : PathWord name.toList) :
    config.destination name =
      String.ofList (fillTemplate name.toList config.destinationTemplate) := by
  -- Whether the file name is absolute can be told before its holes are filled.
  have hhead : (fillTemplate name.toList (template config.output.filename.toList)).head? =
      some '/' ↔ (template config.output.filename.toList).head? = some (some '/') :=
    head?_fillTemplate_eq_slash_iff hname
  rw [destination, Path.join, OutputSettings.filenameFor, String.toList_ofList,
    destinationTemplate]
  simp only [hhead]
  split
  · rfl
  · split
    · rw [fillTemplate_map_append, String.ofList_append, String.ofList_toList]
    · rw [fillTemplate_map_append, fillTemplate_some, ← List.singleton_append,
        String.ofList_append, String.ofList_append, String.ofList_toList, String.append_assoc]

/-- The file name of an accepted configuration has a hole, and so has the
    `Config.destinationTemplate`. -/
theorem none_mem_destinationTemplate (h : config.violations = []) :
    none ∈ config.destinationTemplate := by
  -- An accepted file name has a placeholder.
  have hfile : none ∈ template config.output.filename.toList := by
    rw [violations, List.append_eq_nil_iff, List.append_eq_nil_iff, OutputSettings.violations_eq,
      List.filterMap_eq_nil_iff] at h
    have hobeys := OutputSettings.obeys_of_violation?_eq_none (h.1.1 .filename (by simp))
    exact none_mem_template_iff.2 hobeys.2
  rw [destinationTemplate]
  split
  · exact hfile
  · split
    · exact List.mem_append_right _ hfile
    · exact List.mem_append_right _ (List.mem_cons_of_mem _ hfile)

/-- Packages whose names are different identifiers have different destinations, whatever the
    directory and the template for the names of the files are: neither the texts nor the
    `Path.components` of the two are equal. -/
theorem components_destination_ne (hconfig : config.violations = []) {name other : String}
    (hname : isIdentifier name = true) (hother : isIdentifier other = true)
    (hne : name ≠ other) :
    config.destination name ≠ config.destination other ∧
      Path.components (config.destination name) ≠ Path.components (config.destination other) := by
  have hword := (isIdentifier_iff.1 hname).pathWord
  have hword' := (isIdentifier_iff.1 hother).pathWord
  have hcomponents :
      Path.components (config.destination name) ≠ Path.components (config.destination other) := by
    intro h
    -- Equal components are equal one by one, and the one with a hole tells the names apart.
    rw [destination_eq hword, destination_eq hword', components_fillTemplate hword,
      components_fillTemplate hword', List.append_cancel_left_eq, List.map_inj_left] at h
    obtain ⟨segment, hsegment, hhole⟩ := exists_mem_namedSegments
      (none_mem_destinationTemplate hconfig)
    have hfill := fillTemplate_inj hhole (String.ofList_inj.1 (h segment hsegment))
    exact hne (String.toList_inj.1 hfill)
  exact ⟨fun h => hcomponents (congrArg Path.components h), hcomponents⟩

end Config

namespace Nested

/-- Two holes in the name of the file, one of them between texts that look like a placeholder. -/
def config : Config where
  output := ⟨"./mocks//", "mocks", "\x7bpa\x7bpackage\x7d\x7d/\x7bpackage\x7d.go", "Iface"⟩
  paths := ["example.com/a", "example.com/b"]

/-- With one of the names the text of the placeholder stands in the path again. -/
theorem components_destination_ckage :
    config.violations = [] ∧ isIdentifier "ckage" = true ∧ isIdentifier "ck" = true ∧
      config.destination "ckage" = "./mocks//\x7bpackage\x7d/ckage.go" ∧
      config.destination "ckage" ≠ config.destination "ck" ∧
      Path.components (config.destination "ckage") ≠ Path.components (config.destination "ck") := by
  have hconfig : config.violations = [] := by decide +kernel
  have hname : isIdentifier "ckage" = true := by decide +kernel
  have hother : isIdentifier "ck" = true := by decide +kernel
  exact ⟨hconfig, hname, hother, by decide +kernel,
    Config.components_destination_ne hconfig hname hother (by decide)⟩

end Nested

end IfaceGen
