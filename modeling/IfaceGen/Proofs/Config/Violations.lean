import IfaceGen.Config.Check
import IfaceGen.Proofs.List

/-!
# What is wrong with a configuration

A configuration is accepted if each setting of its output keeps its own rule and its packages have
paths that are distinct and not blank. The violations of a configuration are exactly its faults:
one for each setting that breaks its rule, then one for each faulty entry of the list of packages.
The check keeps a list of the paths it has accepted, without blank and repeated ones; the rule
speaks of all entries further up, which comes to the same.

## Key results

- `isIdentifier_iff`, `none_mem_template_iff`: the rules for names and templates, spelled out
- `OutputSettings.reports_of_violation?`, `OutputSettings.obeys_of_violation?_eq_none`: what is
  reported about a setting
- `pathViolations_eq`: the violations of the packages, entry by entry
- `Config.violations_exact`: the violations of a configuration
-/

namespace IfaceGen

/-! ## Blank texts -/

/-- No character of the text shows: all are blank in the sense of `Text.isBlank`. -/
def Blank (text : String) : Prop := ∀ c ∈ text.toList, Text.isBlank c = true

instance (text : String) : Decidable (Blank text) :=
  List.decidableBAll (Text.isBlank · = true) text.toList

theorem isBlankSetting_iff {text : String} : isBlankSetting text = true ↔ Blank text :=
  List.all_eq_true

/-- Classes whose `Text.Ranges` do not meet have no character in common. -/
theorem Text.Ranges.contains_eq_false {table : Text.Ranges} {c : Char}
    (h : table.contains c = true) (other : Text.Ranges)
    (hapart : (table.all fun range => other.all fun range' =>
      range.2 < range'.1 || range'.2 < range.1) = true) : other.contains c = false := by
  rw [Bool.eq_false_iff]
  intro hother
  obtain ⟨range, hrange, hlow, hhigh⟩ := (table.contains_iff c).1 h
  obtain ⟨range', hrange', hlow', hhigh'⟩ := (other.contains_iff c).1 hother
  have hmeet := List.all_eq_true.1 (List.all_eq_true.1 hapart range hrange) range' hrange'
  simp only [Bool.or_eq_true, decide_eq_true_eq] at hmeet
  omega

/-- A blank character is no letter, as `Text.isBlank` and `Text.alphabeticRanges` are apart. -/
theorem isLetter_eq_false_of_isBlank {c : Char} (h : Text.isBlank c = true) :
    isLetter c = false := by
  have hapart := Text.Ranges.contains_eq_false h Text.alphabeticRanges (by decide +kernel)
  rw [isLetter, Text.isAlphabetic, hapart, Bool.false_and]

/-! ## Identifiers -/

/-- A letter, a decimal digit or an underscore. -/
def IsWordChar (c : Char) : Prop := isLetter c = true ∨ isDigit c = true ∨ c = '_'

theorem isIdentChar_iff {c : Char} : isIdentChar c = true ↔ IsWordChar c := by
  simp [isIdentChar, IsWordChar, or_assoc]

instance (c : Char) : Decidable (IsWordChar c) := decidable_of_iff _ isIdentChar_iff

/-- A letter or an underscore, then word characters (`IsWordChar`), but none of the `keywords`. -/
structure IsGoIdentifier (name : String) : Prop where
  start : ∃ first rest, name.toList = first :: rest ∧ (isLetter first = true ∨ first = '_')
  inside : ∀ c ∈ name.toList, IsWordChar c
  free : name ∉ keywords

theorem isIdentifier_iff {name : String} : isIdentifier name = true ↔ IsGoIdentifier name := by
  rw [isIdentifier]
  constructor
  · -- The first character is looked at twice: as the first one, and as one of the name.
    intro h
    cases hname : name.toList with
    | nil => simp [hname] at h
    | cons first rest =>
      simp only [hname, Bool.and_eq_true, Bool.or_eq_true, decide_eq_true_eq, List.all_eq_true,
        isIdentChar_iff, Bool.not_eq_true', List.contains_eq_mem, decide_eq_false_iff_not] at h
      obtain ⟨⟨hfirst, hrest⟩, hfree⟩ := h
      refine ⟨⟨first, rest, hname, hfirst⟩, fun c hc => ?_, hfree⟩
      rw [hname] at hc
      rcases List.mem_cons.1 hc with rfl | hc
      · exact hfirst.imp_right .inr
      · exact hrest c hc
  · rintro ⟨⟨first, rest, hname, hfirst⟩, hinside, hfree⟩
    have hrest : ∀ c ∈ rest, IsWordChar c := by
      intro c hc
      exact hinside c (hname ▸ List.mem_cons_of_mem first hc)
    simp only [hname, Bool.and_eq_true, Bool.or_eq_true, decide_eq_true_eq, List.all_eq_true,
      isIdentChar_iff, Bool.not_eq_true', List.contains_eq_mem, decide_eq_false_iff_not]
    exact ⟨⟨hfirst, hrest⟩, hfree⟩

instance (name : String) : Decidable (IsGoIdentifier name) := decidable_of_iff _ isIdentifier_iff

/-- An identifier shows: it is not `Blank`. -/
theorem IsGoIdentifier.not_blank {name : String} (h : IsGoIdentifier name) : ¬ Blank name := by
  intro hblank
  obtain ⟨first, rest, hname, hfirst⟩ := h.start
  have hfirst' : Text.isBlank first = true := hblank first (hname ▸ List.mem_cons_self)
  rcases hfirst with hletter | rfl
  · rw [isLetter_eq_false_of_isBlank hfirst'] at hletter
    cases hletter
  · exact absurd hfirst' (by decide)

/-! ## Templates -/

/-- The text that stands for the name of the package in a template. `template` makes a hole of
    it. -/
def placeholder : String := "\x7bpackage\x7d"

/-- A `template` has a hole where the text of the `placeholder` stands. -/
theorem none_mem_template_iff {text : List Char} :
    none ∈ template text ↔ placeholder.toList <:+: text := by
  fun_induction template text with
  | case1 rest => exact iff_of_true List.mem_cons_self ⟨[], rest, rfl⟩
  | case2 c rest hother ih =>
    -- The placeholder does not start here, or the template would have a hole here.
    have hprefix : ¬ placeholder.toList <+: c :: rest := by
      rintro ⟨more, hmore⟩
      obtain ⟨rfl, rfl⟩ := List.cons.inj hmore
      exact hother more rfl rfl
    rw [List.infix_cons_iff, List.mem_cons, ih]
    exact ⟨fun h => .inr (h.resolve_left (nomatch ·)), fun h => .inr (h.resolve_left hprefix)⟩
  | case3 => exact iff_of_false (nomatch ·) (by decide)

/-! ## Settings of the output -/

/-- The settings that a file of the output depends on. -/
inductive Setting where
  | dir
  | package
  | filename
  | suffix
deriving DecidableEq, Repr

/-- The package of an output that `packageViolation?` accepts is an identifier. -/
theorem isIdentifier_of_packageViolation? {package : String}
    (h : packageViolation? package = none) : isIdentifier package = true := by
  rw [packageViolation?] at h
  split at h
  · cases h
  · split at h
    · assumption
    · cases h

/-- A suffix that `suffixViolation?` accepts consists of characters that may stand inside an
    identifier. -/
theorem isIdentChar_of_suffixViolation? {suffix : String} (h : suffixViolation? suffix = none) :
    ∀ c ∈ suffix.toList, isIdentChar c = true := by
  rw [suffixViolation?] at h
  split at h
  · cases h
  · intro c hc
    obtain ⟨position, hget⟩ := List.mem_iff_getElem?.1 hc
    have hindexed : (c, position) ∈ suffix.toList.zipIdx :=
      List.mem_zipIdx_iff_getElem?.2 hget
    have hvalid := List.find?_eq_none.1 (Option.map_eq_none_iff.1 h) _ hindexed
    simpa using hvalid

namespace OutputSettings

variable {output : OutputSettings} {setting : Setting} {violation : ConfigViolation}

/-- The rule for each `Setting`. -/
def Obeys (output : OutputSettings) : Setting → Prop
  | .dir => ¬ Blank output.dir
  | .package => IsGoIdentifier output.package
  | .filename => ¬ Blank output.filename ∧ placeholder.toList <:+: output.filename.toList
  | .suffix => ¬ Blank output.suffix ∧ ∀ c ∈ output.suffix.toList, IsWordChar c

instance (output : OutputSettings) : DecidablePred output.Obeys
  | .dir => inferInstanceAs (Decidable (¬ Blank output.dir))
  | .package => inferInstanceAs (Decidable (IsGoIdentifier output.package))
  | .filename => inferInstanceAs
      (Decidable (¬ Blank output.filename ∧ placeholder.toList <:+: output.filename.toList))
  | .suffix => inferInstanceAs
      (Decidable (¬ Blank output.suffix ∧ ∀ c ∈ output.suffix.toList, IsWordChar c))

/-- What is reported about a setting that does not obey its rule. Of the characters that a suffix
    may not have the first one is named, with the number of characters before it. -/
inductive Reports (output : OutputSettings) : Setting → ConfigViolation → Prop
  | blankDir (hblank : Blank output.dir) : Reports output .dir .missingDir
  | blankPackage (hblank : Blank output.package) : Reports output .package .missingPackage
  | otherPackage (hblank : ¬ Blank output.package) (hother : ¬ IsGoIdentifier output.package) :
      Reports output .package (.invalidPackage output.package)
  | blankFilename (hblank : Blank output.filename) : Reports output .filename .missingFilename
  | noPlaceholder (hblank : ¬ Blank output.filename)
      (hmissing : ¬ placeholder.toList <:+: output.filename.toList) :
      Reports output .filename (.missingPlaceholder output.filename)
  | blankSuffix (hblank : Blank output.suffix) : Reports output .suffix .missingSuffix
  | badCharacter {before after : List Char} {c : Char} (hblank : ¬ Blank output.suffix)
      (hsplit : output.suffix.toList = before ++ c :: after) (hbefore : ∀ x ∈ before, IsWordChar x)
      (hc : ¬ IsWordChar c) : Reports output .suffix (.invalidSuffix c before.length)

/-- What the check finds wrong with a `Setting`. -/
def violation? (output : OutputSettings) : Setting → Option ConfigViolation
  | .dir => dirViolation? output.dir
  | .package => packageViolation? output.package
  | .filename => filenameViolation? output.filename
  | .suffix => suffixViolation? output.suffix

theorem violations_eq (output : OutputSettings) :
    output.violations = [.dir, .package, .filename, .suffix].filterMap output.violation? := rfl

/-- A suffix that is refused for a character is refused for the first one that is no
    `IsWordChar`. -/
theorem suffixViolation?_eq_some {suffix : String} (hblank : ¬ Blank suffix)
    (h : suffixViolation? suffix = some violation) :
    ∃ before c after, suffix.toList = before ++ c :: after ∧ (∀ x ∈ before, IsWordChar x) ∧
      ¬ IsWordChar c ∧ violation = .invalidSuffix c before.length := by
  rw [suffixViolation?, if_neg (mt isBlankSetting_iff.1 hblank), Option.map_eq_some_iff] at h
  obtain ⟨⟨c, position⟩, hfind, rfl⟩ := h
  -- The search goes over characters with their positions: both are read off the split of the list.
  obtain ⟨hc, front, back, hsplit, hfront⟩ := List.find?_eq_some_iff_append.1 hfind
  have hposition : position = front.length := by
    have hget : (suffix.toList.zipIdx)[front.length]? = some (c, position) := by simp [hsplit]
    simp only [List.getElem?_zipIdx, Option.map_eq_some_iff, Prod.mk.injEq] at hget
    obtain ⟨-, -, -, hposition⟩ := hget
    omega
  have hsuffix : suffix.toList = front.map (·.1) ++ c :: back.map (·.1) := by
    have hchars := congrArg (List.map (·.1)) hsplit
    simpa [List.zipIdx_map_fst] using hchars
  refine ⟨front.map (·.1), c, back.map (·.1), hsuffix, fun x hx => ?_, ?_, ?_⟩
  · obtain ⟨entry, hentry, rfl⟩ := List.mem_map.1 hx
    exact isIdentChar_iff.1 (by simpa using hfront entry hentry)
  · rw [← isIdentChar_iff]
    simpa using hc
  · rw [hposition, List.length_map]

/-- A setting for which there is a `violation?` breaks its rule, and the violation is the one that
    `Reports` names. -/
theorem reports_of_violation? (h : output.violation? setting = some violation) :
    ¬ output.Obeys setting ∧ output.Reports setting violation := by
  -- Each setting is first checked for being blank, and only then for what else it has to be.
  cases setting with
  | dir =>
    rw [violation?, dirViolation?] at h
    split at h
    · rename_i hblank
      cases h
      rw [isBlankSetting_iff] at hblank
      exact ⟨fun hobeys => hobeys hblank, .blankDir hblank⟩
    · cases h
  | package =>
    rw [violation?, packageViolation?] at h
    split at h
    · rename_i hblank
      cases h
      rw [isBlankSetting_iff] at hblank
      exact ⟨fun hobeys => IsGoIdentifier.not_blank hobeys hblank, .blankPackage hblank⟩
    · rename_i hblank
      split at h
      · cases h
      · rename_i hother
        cases h
        rw [isBlankSetting_iff] at hblank
        -- What is no identifier for the program is none of the language.
        rw [isIdentifier_iff] at hother
        exact ⟨hother, .otherPackage hblank hother⟩
  | filename =>
    rw [violation?, filenameViolation?] at h
    split at h
    · rename_i hblank
      cases h
      rw [isBlankSetting_iff] at hblank
      exact ⟨fun hobeys => hobeys.1 hblank, .blankFilename hblank⟩
    · rename_i hblank
      split at h
      · cases h
      · rename_i hmissing
        cases h
        rw [isBlankSetting_iff] at hblank
        -- Without a hole, the placeholder does not stand in the name of the file.
        rw [List.contains_eq_mem, decide_eq_true_eq, none_mem_template_iff] at hmissing
        exact ⟨fun hobeys => hmissing hobeys.2, .noPlaceholder hblank hmissing⟩
  | suffix =>
    rw [violation?] at h
    by_cases hblank : Blank output.suffix
    · rw [suffixViolation?, if_pos (isBlankSetting_iff.2 hblank)] at h
      cases h
      exact ⟨fun hobeys => hobeys.1 hblank, .blankSuffix hblank⟩
    · -- The first character that is refused breaks the rule.
      obtain ⟨before, c, after, hsplit, hbefore, hc, rfl⟩ := suffixViolation?_eq_some hblank h
      refine ⟨fun hobeys => hc (hobeys.2 c ?_), .badCharacter hblank hsplit hbefore hc⟩
      rw [hsplit]
      exact List.mem_append_right _ List.mem_cons_self

/-- A setting without a `violation?` obeys its rule. -/
theorem obeys_of_violation?_eq_none (h : output.violation? setting = none) :
    output.Obeys setting := by
  -- The check goes through the parts of the rule, and none of them is broken.
  cases setting with
  | dir =>
    rw [violation?, dirViolation?] at h
    split at h
    · cases h
    · exact mt isBlankSetting_iff.2 ‹_›
  | package =>
    exact isIdentifier_iff.1 (isIdentifier_of_packageViolation? h)
  | filename =>
    rw [violation?, filenameViolation?] at h
    split at h
    · cases h
    · rename_i hblank
      split at h
      · rename_i hhole
        rw [List.contains_eq_mem, decide_eq_true_eq, none_mem_template_iff] at hhole
        exact ⟨mt isBlankSetting_iff.2 hblank, hhole⟩
      · cases h
  | suffix =>
    have hchars := isIdentChar_of_suffixViolation? h
    rw [violation?, suffixViolation?] at h
    split at h
    · cases h
    · exact ⟨mt isBlankSetting_iff.2 ‹_›, fun c hc => isIdentChar_iff.1 (hchars c hc)⟩

/-- What is reported about the output: one violation for each setting that does not
    `OutputSettings.Obeys` its rule. -/
theorem forall₂_reports (output : OutputSettings) :
    List.Forall₂ output.Reports
      ([.dir, .package, .filename, .suffix].filter fun setting => ¬ output.Obeys setting)
      output.violations := by
  rw [violations_eq]
  exact forall₂_filterMap (fun _ hnone => not_not_intro (obeys_of_violation?_eq_none hnone))
    (fun _ _ hsome => reports_of_violation? hsome) _

end OutputSettings

/-! ## Entries of the list of packages -/

/-- An entry, with its position, that is blank or has the path of an entry further up. -/
def FaultyEntry (paths : List String) (entry : String × Nat) : Prop :=
  Blank entry.1 ∨ entry.1 ∈ paths.take entry.2

instance (paths : List String) : DecidablePred (FaultyEntry paths) := fun _ =>
  inferInstanceAs (Decidable (_ ∨ _))

/-- What is reported about a `FaultyEntry`. A blank one is not compared with others. -/
inductive ReportsEntry (paths : List String) : String × Nat → ConfigViolation → Prop
  | blank {path : String} {position : Nat} (hblank : Blank path) :
      ReportsEntry paths (path, position) .missingPackagePath
  | repeated {path : String} {position : Nat} (hblank : ¬ Blank path)
      (hearlier : path ∈ paths.take position) :
      ReportsEntry paths (path, position) (.duplicatePackage path)

/-- What is wrong with an entry, by the entries further up in the list. -/
def entryViolation? (paths : List String) (entry : String × Nat) : Option ConfigViolation :=
  if Blank entry.1 then some .missingPackagePath
  else if entry.1 ∈ paths.take entry.2 then some (.duplicatePackage entry.1)
  else none

/-- The paths that `pathViolations` has seen are those further up, as far as they are not blank. -/
theorem pathViolations_eq {seen earlier : List String}
    (h : ∀ path, ¬ Blank path → (path ∈ seen ↔ path ∈ earlier)) (rest : List String) :
    pathViolations seen rest =
      (rest.zipIdx earlier.length).filterMap (entryViolation? (earlier ++ rest)) := by
  induction rest generalizing seen earlier with
  | nil => rfl
  | cons path rest ih =>
    have hentry : entryViolation? (earlier ++ path :: rest) (path, earlier.length) =
        if Blank path then some .missingPackagePath
        else if path ∈ earlier then some (.duplicatePackage path) else none := by
      rw [entryViolation?, List.take_left]
    -- The path joins those further up, whatever is reported about it.
    have hrest {seen' : List String}
        (h' : ∀ other, ¬ Blank other → (other ∈ seen' ↔ other ∈ earlier ++ [path])) :
        pathViolations seen' rest = (rest.zipIdx (earlier.length + 1)).filterMap
          (entryViolation? (earlier ++ path :: rest)) := by
      have hih := ih h'
      rwa [List.append_assoc, List.length_append, List.length_singleton] at hih
    have hmem (other : String) (hother : ¬ Blank other) :
        other ∈ earlier ++ [path] ↔ other ∈ seen ∨ other = path := by
      rw [List.mem_append, List.mem_singleton, h other hother]
    rw [pathViolations, List.zipIdx_cons, List.filterMap_cons, hentry, List.contains_eq_mem]
    -- A blank path is reported as such, even when it is repeated.
    by_cases hblank : Blank path
    · have hseen (other : String) (hother : ¬ Blank other) :
          other ∈ seen ↔ other ∈ earlier ++ [path] := by
        have hne : other ≠ path := fun heq => hother (heq ▸ hblank)
        rw [hmem other hother, or_iff_left hne]
      rw [if_pos (isBlankSetting_iff.2 hblank), if_pos hblank, hrest hseen]
    · rw [if_neg (mt isBlankSetting_iff.1 hblank), if_neg hblank]
      by_cases hearlier : path ∈ earlier
      · have hpath := (h path hblank).2 hearlier
        have hseen (other : String) (hother : ¬ Blank other) :
            other ∈ seen ↔ other ∈ earlier ++ [path] := by
          rw [hmem other hother]
          exact ⟨.inl, fun hor => hor.elim id fun heq => heq ▸ hpath⟩
        rw [if_pos (decide_eq_true hpath), if_pos hearlier, hrest hseen]
      · have hpath : path ∉ seen := mt (h path hblank).1 hearlier
        have hseen (other : String) (hother : ¬ Blank other) :
            other ∈ path :: seen ↔ other ∈ earlier ++ [path] := by
          rw [hmem other hother, List.mem_cons, or_comm]
        rw [if_neg (by simpa using hpath), if_neg hearlier, hrest hseen]

/-- What `pathViolations` reports about the entries: one violation for each faulty one, in order. -/
theorem reportsEntry_pathViolations (paths : List String) :
    List.Forall₂ (ReportsEntry paths) (paths.zipIdx.filter (FaultyEntry paths ·))
      (pathViolations [] paths) := by
  rw [@pathViolations_eq [] [] (fun _ _ => Iff.rfl)]
  -- An entry has a violation if and only if it is faulty, and then the one that is reported.
  refine forall₂_filterMap (fun entry hnone => ?_) (fun entry violation hsome => ?_) _
  · rw [List.nil_append, entryViolation?] at hnone
    split at hnone
    · cases hnone
    · split at hnone
      · cases hnone
      · exact not_or.2 ⟨‹_›, ‹_›⟩
  · obtain ⟨path, position⟩ := entry
    rw [List.nil_append, entryViolation?] at hsome
    split at hsome
    · cases hsome
      exact ⟨.inl ‹_›, .blank ‹_›⟩
    · split at hsome
      · cases hsome
        exact ⟨.inr ‹_›, .repeated ‹_› ‹_›⟩
      · cases hsome

/-- There is no `FaultyEntry` if and only if the paths are distinct and not blank. -/
theorem forall_not_faultyEntry_iff {paths : List String} :
    (∀ entry ∈ paths.zipIdx, ¬ FaultyEntry paths entry) ↔
      (∀ path ∈ paths, ¬ Blank path) ∧ paths.Nodup := by
  have hentry {path : String} {position : Nat} (hget : paths[position]? = some path) :
      (path, position) ∈ paths.zipIdx := List.mem_zipIdx_iff_getElem?.2 hget
  constructor
  · intro h
    refine ⟨fun path hpath hblank => ?_, List.pairwise_iff_getElem.2 fun i j hi hj hij heq => ?_⟩
    · obtain ⟨position, hget⟩ := List.mem_iff_getElem?.1 hpath
      exact h _ (hentry hget) (.inl hblank)
    · -- The later of two equal entries is faulty.
      refine h _ (hentry (List.getElem?_eq_getElem hj)) (.inr ?_)
      exact List.mem_take_iff_getElem.2 ⟨i, by omega, heq⟩
  · rintro ⟨hnamed, hdistinct⟩ ⟨path, position⟩ hmem hfaulty
    have hget : paths[position]? = some path := List.mem_zipIdx_iff_getElem?.1 hmem
    rcases hfaulty with hblank | hearlier
    · exact hnamed path (List.mem_of_getElem? hget) hblank
    · obtain ⟨hj, hget⟩ := List.getElem?_eq_some_iff.1 hget
      obtain ⟨i, hi, heq⟩ := List.mem_take_iff_getElem.1 hearlier
      have hij : i < position := by omega
      exact List.pairwise_iff_getElem.1 hdistinct i position _ hj hij (heq.trans hget.symm)

/-- Of the entries with one path `pathViolations` reports all but the first one as repeated. -/
theorem count_duplicatePackage {path : String} (hblank : ¬ Blank path) (seen paths : List String) :
    (pathViolations seen paths).count (.duplicatePackage path) =
      paths.count path - if path ∈ seen then 0 else 1 := by
  induction paths generalizing seen with
  | nil => simp [pathViolations]
  | cons first paths ih =>
    rw [pathViolations, List.contains_eq_mem]
    by_cases hfirst : first = path
    · subst hfirst
      rw [if_neg (mt isBlankSetting_iff.1 hblank), List.count_cons_self]
      by_cases hseen : first ∈ seen
      · rw [if_pos (decide_eq_true hseen), List.count_cons_self, ih, if_pos hseen]
        rfl
      · -- The first entry is not reported, but those after it are.
        rw [if_neg (by simpa using hseen), ih, if_pos List.mem_cons_self, if_neg hseen]
        rfl
    · rw [List.count_cons_of_ne hfirst]
      by_cases hother : Blank first
      · rw [if_pos (isBlankSetting_iff.2 hother), List.count_cons_of_ne (by simp), ih]
      · rw [if_neg (mt isBlankSetting_iff.1 hother)]
        by_cases hseen : first ∈ seen
        · rw [if_pos (decide_eq_true hseen), List.count_cons_of_ne (by simpa using hfirst), ih]
        · rw [if_neg (by simpa using hseen), ih]
          simp only [List.mem_cons, Ne.symm hfirst, false_or]

/-! ## Configurations -/

/-- The rules for a configuration. -/
structure Config.Valid (config : Config) : Prop where
  settings : ∀ setting, config.output.Obeys setting
  nonempty : config.paths ≠ []
  named : ∀ path ∈ config.paths, ¬ Blank path
  distinct : config.paths.Nodup

/-- What is wrong with a configuration (`Config.violations`): one violation for each setting that
    breaks its rule, in the order of the settings, and then, unless there are no packages at all,
    one for each faulty entry, in the order of the entries. A path that is listed several times is
    reported once less often. -/
theorem Config.violations_exact (config : Config) :
    (config.violations = [] ↔ config.Valid) ∧
    (∃ ofOutput ofPackages, config.violations = ofOutput ++ ofPackages ∧
      List.Forall₂ config.output.Reports
        ([.dir, .package, .filename, .suffix].filter fun setting => ¬ config.output.Obeys setting)
        ofOutput ∧
      ((config.paths = [] ∧ ofPackages = [.noPackages]) ∨
        (config.paths ≠ [] ∧ List.Forall₂ (ReportsEntry config.paths)
          (config.paths.zipIdx.filter (FaultyEntry config.paths ·)) ofPackages))) ∧
    ∀ path, ¬ Blank path →
      config.violations.count (.duplicatePackage path) = config.paths.count path - 1 := by
  have houtput : List.Forall₂ config.output.Reports
      ([.dir, .package, .filename, .suffix].filter fun setting => ¬ config.output.Obeys setting)
      config.output.violations :=
    config.output.forall₂_reports
  have hpackages := reportsEntry_pathViolations config.paths
  refine ⟨?_, ⟨config.output.violations, _, List.append_assoc .., houtput, ?_⟩, ?_⟩
  · rw [Config.violations, List.append_eq_nil_iff, List.append_eq_nil_iff,
      eq_nil_iff_of_forall₂_filter houtput, eq_nil_iff_of_forall₂_filter hpackages,
      forall_not_faultyEntry_iff]
    -- No setting, no entry and no lack of packages is reported.
    constructor
    · rintro ⟨⟨hsettings, hnonempty⟩, hnamed, hdistinct⟩
      refine ⟨fun setting => not_not.1 (hsettings setting ?_), fun hnil => ?_, hnamed, hdistinct⟩
      · cases setting <;> simp
      · rw [hnil] at hnonempty
        exact nomatch hnonempty
    · rintro ⟨hsettings, hnonempty, hnamed, hdistinct⟩
      refine ⟨⟨fun setting _ => not_not_intro (hsettings setting), ?_⟩, hnamed, hdistinct⟩
      rw [if_neg (by simpa using hnonempty)]
  · -- An empty list of packages is reported once, and has no entries.
    by_cases hpaths : config.paths = []
    · refine .inl ⟨hpaths, ?_⟩
      rw [hpaths]
      rfl
    · refine .inr ⟨hpaths, ?_⟩
      rw [if_neg (by simpa using hpaths)]
      exact hpackages
  · intro path hblank
    -- No setting is reported as a repeated package.
    have hother : config.output.violations.count (.duplicatePackage path) = 0 := by
      refine List.count_eq_zero.2 fun hmem => ?_
      obtain ⟨setting, -, hreports⟩ := exists_left_of_forall₂ houtput hmem
      cases hreports
    have hnone : (if config.paths.isEmpty then [ConfigViolation.noPackages] else []).count
        (.duplicatePackage path) = 0 := by
      split <;> simp
    rw [Config.violations, List.count_append, List.count_append, hother, hnone,
      count_duplicatePackage hblank, if_neg List.not_mem_nil]
    omega

namespace Muddle

/-- A configuration with every setting wrong, and with entries that are blank or repeated. -/
def config : Config where
  output := ⟨" ", "func", "iface.go", "Iface²"⟩
  paths := ["example.com/a", "", "example.com/a", "\t", "example.com/a"]

/-- Each fault of `config` is reported once and in order, and a path that is listed three times is
    reported twice. -/
theorem count_violations_config :
    config.violations = [.missingDir, .invalidPackage "func", .missingPlaceholder "iface.go",
      .invalidSuffix '²' 5, .missingPackagePath, .duplicatePackage "example.com/a",
      .missingPackagePath, .duplicatePackage "example.com/a"] ∧ ¬ config.Valid ∧
    ¬ Blank "example.com/a" ∧
      config.violations.count (.duplicatePackage "example.com/a") =
        config.paths.count "example.com/a" - 1 := by
  obtain ⟨hvalid, -, hcount⟩ := config.violations_exact
  have hlist : config.violations = [.missingDir, .invalidPackage "func",
      .missingPlaceholder "iface.go", .invalidSuffix '²' 5, .missingPackagePath,
      .duplicatePackage "example.com/a", .missingPackagePath,
      .duplicatePackage "example.com/a"] := by decide +kernel
  have hviolations : config.violations ≠ [] := hlist ▸ List.cons_ne_nil _ _
  have hblank : ¬ Blank "example.com/a" := by decide +kernel
  exact ⟨hlist, mt hvalid.2 hviolations, hblank, hcount _ hblank⟩

end Muddle

end IfaceGen
