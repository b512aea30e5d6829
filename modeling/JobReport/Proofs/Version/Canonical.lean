import JobReport.Proofs.Exporting
import JobReport.Proofs.Spelling
import JobReport.Proofs.Stages
import JobReport.Proofs.Version.Grammar

/-!
# The one way to write a version

A version that was read is written without blanks and without zeros that its numbers could do
without, and is read again from what is written. So two versions that were read are the same when
their texts are, and the text in a debug view gives back the version of the settings. Of versions
that were not read, those come back whose suffix could have been.
-/

set_option autoImplicit false

namespace JobReport

namespace PlatformVersion

/-- Whether a number has no zero in front that it could do without. -/
def Shortest (digits : List Char) : Prop := digits = ['0'] ∨ digits.head? ≠ some '0'

/-- Whether a text is written as versions are. -/
structure Canonical (text : List Char) : Prop where
  trimmed : Text.Trimmed text
  shortest : text = ['d', 'e', 'v'] ∨ ∃ r : ReleaseText, text = r.chars ∧ r.Fits Char.isDigit ∧
    ∀ n ∈ r.numbers, Shortest n

/-- Whether the suffix of a version, if it has one, could have been read. -/
def Readable : PlatformVersion → Prop
  | .dev => True
  | .release _ _ _ suffix => ∀ s ∈ suffix, IsSuffix s.toList

section

variable {c : Char} {s : List Char} {v v' : PlatformVersion} {digits : List Char} {n : UInt64}

theorem shortest_natChars (n : Nat) : Shortest (Text.natChars n) := by
  by_cases h : (Text.natChars n).head? = some '0'
  · obtain ⟨ds, hds⟩ := List.head?_eq_some_iff.1 h
    rw [Text.natChars_zero_cons hds] at hds
    exact .inl hds
  · exact .inr h

theorem writes_natChars (n : UInt64) : Writes (Text.natChars n.toNat) n :=
  word64?_eq_some_iff.1 (Text.word64?_natChars n)

/-- A release as it is written by default. -/
def releaseText (major minor patch : UInt64) (suffix : Option String) : ReleaseText where
  major := Text.natChars major.toNat
  minor := Text.natChars minor.toNat
  patch := Text.natChars patch.toNat
  suffix := suffix.map String.toList

theorem chars_release (major minor patch : UInt64) (suffix : Option String) :
    (PlatformVersion.release major minor patch suffix).chars =
      (releaseText major minor patch suffix).chars := by
  cases suffix <;>
    simp [chars, ReleaseText.chars, releaseText, ReleaseText.ending]

theorem fits_releaseText {major minor patch : UInt64} {suffix : Option String}
    (h : (PlatformVersion.release major minor patch suffix).Readable) :
    (releaseText major minor patch suffix).Fits Char.isDigit where
  major := (writes_natChars major).isRun
  minor := (writes_natChars minor).isRun
  patch := (writes_natChars patch).isRun
  suffix := by
    intro s hs
    obtain ⟨t, ht, rfl⟩ := Option.map_eq_some_iff.1 hs
    exact h t ht

theorem denotes_chars (h : v.Readable) : Denotes v.chars v := by
  cases v with
  | dev => exact .dev (.inl rfl) (.inl rfl) (.inl rfl)
  | release major minor patch suffix =>
    have hdenotes := Denotes.release (r := releaseText major minor patch suffix)
      (writes_natChars major) (writes_natChars minor) (writes_natChars patch)
      (fits_releaseText h).suffix
    simpa [chars_release, releaseText, Function.comp_def] using hdenotes

theorem readable_of_denotes (h : Denotes s v) : v.Readable := by
  cases h with
  | dev => trivial
  | @release r _ _ _ _ _ _ hsuffix =>
    intro u hu
    obtain ⟨t, ht, rfl⟩ := Option.map_eq_some_iff.1 hu
    rw [String.toList_ofList]
    exact hsuffix t ht

theorem Writes.isVersionChar (h : Writes digits n) : ∀ c ∈ digits, IsVersionChar c :=
  fun c hc => .inr (.inl (h.isDigit c hc))

theorem isBlank_of_isVersionChar (h : IsVersionChar c) : Text.isBlank c = false := by
  have hvisible : 0x2D ≤ c.toNat ∧ c.toNat ≤ 0x7A := by
    rcases h with (⟨hlower, hupper⟩ | ⟨hlower, hupper⟩) | ⟨hlower, hupper⟩ | rfl | rfl
    · exact ⟨Nat.le_trans (by decide) hlower, Nat.le_trans hupper (by decide)⟩
    · exact ⟨Nat.le_trans (by decide) hlower, Nat.le_trans hupper (by decide)⟩
    · exact ⟨Nat.le_trans (by decide) hlower, Nat.le_trans hupper (by decide)⟩
    · decide
    · decide
  apply Text.isBlank_of_visible <;> omega

theorem isVersionChar_of_denotes (h : Denotes s v) : ∀ c ∈ s, IsVersionChar c := by
  cases h with
  | dev hd he hv =>
    simp only [List.forall_mem_cons, List.not_mem_nil, false_imp_iff, implies_true, and_true]
    rcases hd with rfl | rfl <;> rcases he with rfl | rfl <;> rcases hv with rfl | rfl <;> decide
  | @release r _ _ _ hmajor hminor hpatch hsuffix =>
    have hpoint : IsVersionChar '.' := .inr (.inr (.inl rfl))
    have hending : ∀ c ∈ ReleaseText.ending r.suffix, IsVersionChar c := by
      cases hs : r.suffix with
      | none => exact nofun
      | some s =>
        rw [ReleaseText.ending, List.forall_mem_cons]
        exact ⟨.inr (.inr (.inr rfl)), (hsuffix s hs).char⟩
    simp only [ReleaseText.chars, List.forall_mem_append, List.forall_mem_cons]
    exact ⟨hmajor.isVersionChar, hpoint, hminor.isVersionChar, hpoint, hpatch.isVersionChar,
      hending⟩

theorem trimmed_of_denotes (h : Denotes s v) : Text.Trimmed s :=
  Text.trimmed_of_no_blank fun c hc => isBlank_of_isVersionChar (isVersionChar_of_denotes h c hc)

theorem readable_of_parse {text : String} (h : parse text = .ok v) : v.Readable :=
  readable_of_denotes (parse_ok_iff.1 h)

theorem toList_text (v : PlatformVersion) : v.text.toList = v.chars := String.toList_ofList

/-- A version is read from its own text if its suffix could have been read. -/
theorem parse_text_iff : parse v.text = .ok v ↔ v.Readable := by
  refine ⟨readable_of_parse, fun h => ?_⟩
  have hdenotes : Denotes v.text.toList v := by
    rw [toList_text]
    exact denotes_chars h
  rw [parse_ok_iff, Text.trim_of_trimmed (trimmed_of_denotes hdenotes)]
  exact hdenotes

theorem canonical_chars (h : v.Readable) : Canonical v.chars where
  trimmed := trimmed_of_denotes (denotes_chars h)
  shortest := by
    cases v with
    | dev => exact .inl rfl
    | release major minor patch suffix =>
      refine .inr ⟨releaseText major minor patch suffix, chars_release .., fits_releaseText h, ?_⟩
      simp only [ReleaseText.numbers, List.forall_mem_cons]
      exact ⟨shortest_natChars _, shortest_natChars _, shortest_natChars _, List.forall_mem_nil _⟩

/-- Versions that could have been read are the same if they are written alike. -/
theorem eq_iff_text_eq (h : v.Readable) (h' : v'.Readable) : v = v' ↔ v.text = v'.text := by
  constructor
  · exact congrArg text
  · intro heq
    have hread := parse_text_iff.2 h
    rw [heq, parse_text_iff.2 h'] at hread
    exact (Except.ok.inj hread).symm

end

end PlatformVersion

namespace View.JobDebug

theorem at?_platformVersion (view : View.JobDebug) :
    (codec.encode view).at? ["platform_version"] = some (.str view.platformVersion) := rfl

end View.JobDebug

namespace Command

variable {read : FileReader Id} {env : Environment} {dir path sourcePath destinationPath : Path}
  {view : View.JobDebug} {settings : Settings} {version : PlatformVersion}

/-- A debug command shows the version of the settings under which it runs. -/
theorem platformVersion_of_succeeds (hload : (Settings.load read env dir).run.run = .ok settings)
    (hversion : settings.version = .ok version)
    (h : Succeeds read env dir (.debug path sourcePath destinationPath) view) :
    view.platformVersion = version.text := by
  obtain @⟨settings', version', ⟨job, source, destination⟩, hload', hversion', _, hview⟩ := h
  obtain rfl := Except.ok.inj (hload.symm.trans hload')
  obtain rfl := Except.ok.inj (hversion.symm.trans hversion')
  obtain ⟨info, _, rfl⟩ := except_map_ok_iff.1 hview
  rfl

end Command

namespace PlatformVersion

/-- A version that was read is read again from its own text, which has neither blanks nor needless
zeros, and two that were read are the same exactly if their texts are. Settings that were loaded
have a version, and it is read from what any debug view prints for it. -/
theorem written_canonically :
    (∀ text v, parse text = .ok v → parse v.text = .ok v ∧ Canonical v.text.toList) ∧
    (∀ text text' v v', parse text = .ok v → parse text' = .ok v' →
      (parse text = parse text' ↔ v.text = v'.text)) ∧
    ∀ read env dir settings, (Settings.load read env dir).run.run = .ok settings →
      ∃ version, settings.version = .ok version ∧
        (∀ info source destination, ∃ printed,
          (View.JobDebug.codec.encode (.ofInfo info source destination version)).at?
            ["platform_version"] = some (.str printed) ∧ parse printed = .ok version) ∧
        ∀ path sourcePath destinationPath view,
          Command.Succeeds read env dir (.debug path sourcePath destinationPath) view →
          parse view.platformVersion = .ok version := by
  refine ⟨fun text v h => ⟨?_, ?_⟩, fun text text' v v' h h' => ?_, ?_⟩
  · exact parse_text_iff.2 (readable_of_parse h)
  · rw [toList_text]
    exact canonical_chars (readable_of_parse h)
  · rw [h, h', Except.ok.injEq]
    exact eq_iff_text_eq (readable_of_parse h) (readable_of_parse h')
  · intro read env dir settings hload
    obtain ⟨version, hversion⟩ := Settings.version_of_load hload
    have hread : parse version.text = .ok version :=
      parse_text_iff.2 (readable_of_parse (except_mapError_ok_iff.1 hversion))
    refine ⟨version, hversion, fun info source destination => ?_, ?_⟩
    · exact ⟨version.text, View.JobDebug.at?_platformVersion _, hread⟩
    · intro path sourcePath destinationPath view hview
      rw [Command.platformVersion_of_succeeds hload hversion hview]
      exact hread

theorem written_canonically_loose :
    parse " 01.2.3-4.05-x\n" = .ok (.release 1 2 3 (some "4.05-x")) ∧
    parse "1.2.3-4.05-x" = .ok (.release 1 2 3 (some "4.05-x")) ∧
    (Settings.load Settings.looseFiles (fun _ => none) ⟨"d"⟩).run.run = .ok Settings.looseSettings ∧
    ∃ version, Settings.looseSettings.version = .ok version ∧
      ∀ info source destination, ∃ printed,
        (View.JobDebug.codec.encode (.ofInfo info source destination version)).at?
          ["platform_version"] = some (.str printed) ∧ parse printed = .ok version := by
  have hparse : parse " 01.2.3-4.05-x\n" = .ok (.release 1 2 3 (some "4.05-x")) := by
    decide +kernel
  obtain ⟨hall, _, hshown⟩ := written_canonically
  obtain ⟨version, hversion, hviews, _⟩ := hshown _ _ _ _ Settings.load_loose
  exact ⟨hparse, (hall _ _ hparse).1, Settings.load_loose, version, hversion, hviews⟩

end PlatformVersion

end JobReport
