import JobReport.Proofs.Text.Parts
import JobReport.Version
import Mathlib

/-!
# The texts of versions

A version is read from exactly the texts of a grammar: blanks, then `dev` in any case or three
numbers with points between them and perhaps a suffix after a hyphen, then blanks. Any other text is
given back as it was. A release can be taken apart in one way only, even where more characters than
the ten digits of ASCII count as digits, so a number with such a digit in it is never read.
-/

set_option autoImplicit false

namespace JobReport

namespace Text

theorem toNat_toLower {c : Char} (h : c.isUpper = true) : c.toLower.toNat = c.toNat + 32 := by
  have hle : c.toNat ≤ 90 := (of_decide_eq_true h).2
  have hvalid : (c.toNat + 32).isValidChar := .inl (by omega)
  rw [Char.toLower_eq_of_isUpper h, Char.toNat_ofNat, if_pos hvalid]

theorem toLower_eq_iff {c lower upper : Char} (hlower : lower.isUpper = false)
    (hupper : upper.isUpper = true) (h : upper.toLower = lower) :
    c.toLower = lower ↔ c = lower ∨ c = upper := by
  constructor
  · intro hc
    by_cases hcase : c.isUpper = true
    · have hvalue : c.toNat + 32 = upper.toNat + 32 := by
        rw [← toNat_toLower hcase, ← toNat_toLower hupper, hc, h]
      exact .inr (Char.toNat_inj.1 (Nat.add_right_cancel hvalue))
    · exact .inl ((Char.toLower_eq_of_not_isUpper hcase).symm.trans hc)
  · rintro (rfl | rfl)
    · exact Char.toLower_eq_of_not_isUpper (by simp [hlower])
    · exact h

end Text

namespace PlatformVersion

def IsDigit (c : Char) : Prop := '0' ≤ c ∧ c ≤ '9'

def IsLetter (c : Char) : Prop := ('A' ≤ c ∧ c ≤ 'Z') ∨ ('a' ≤ c ∧ c ≤ 'z')

instance (c : Char) : Decidable (IsDigit c) := inferInstanceAs (Decidable (_ ∧ _))

instance (c : Char) : Decidable (IsLetter c) := inferInstanceAs (Decidable (_ ∨ _))

/-- Whether characters write a number of 64 bits, perhaps with zeros in front. -/
structure Writes (digits : List Char) (n : UInt64) : Prop where
  ne_nil : digits ≠ []
  isDigit : ∀ c ∈ digits, IsDigit c
  value : Nat.ofDigitChars 10 digits 0 = n.toNat

/-- The characters that versions are made of. -/
def IsVersionChar (c : Char) : Prop := IsLetter c ∨ IsDigit c ∨ c = '.' ∨ c = '-'

instance (c : Char) : Decidable (IsVersionChar c) := inferInstanceAs (Decidable (_ ∨ _))

structure IsSuffix (s : List Char) : Prop where
  ne_nil : s ≠ []
  char : ∀ c ∈ s, IsVersionChar c

/-- Whether characters are a run of digits, whatever counts as a digit. -/
structure IsRun (digit : Char → Bool) (s : List Char) : Prop where
  ne_nil : s ≠ []
  digit : ∀ c ∈ s, digit c = true

@[ext] structure ReleaseText where
  major : List Char
  minor : List Char
  patch : List Char
  suffix : Option (List Char)

namespace ReleaseText

def ending : Option (List Char) → List Char
  | none => []
  | some s => '-' :: s

def chars (r : ReleaseText) : List Char :=
  r.major ++ '.' :: (r.minor ++ '.' :: (r.patch ++ ending r.suffix))

def numbers (r : ReleaseText) : List (List Char) := [r.major, r.minor, r.patch]

/-- Whether a release is made of three runs of digits and of a suffix, if it has one. -/
structure Fits (digit : Char → Bool) (r : ReleaseText) : Prop where
  major : IsRun digit r.major
  minor : IsRun digit r.minor
  patch : IsRun digit r.patch
  suffix : ∀ s ∈ r.suffix, IsSuffix s

end ReleaseText

open ReleaseText (ending)

/-- The version that characters without blanks around them stand for. -/
inductive Denotes : List Char → PlatformVersion → Prop
  | dev {d e v : Char} (hd : d = 'd' ∨ d = 'D') (he : e = 'e' ∨ e = 'E') (hv : v = 'v' ∨ v = 'V') :
    Denotes [d, e, v] .dev
  | release {r : ReleaseText} {major minor patch : UInt64} (hmajor : Writes r.major major)
    (hminor : Writes r.minor minor) (hpatch : Writes r.patch patch)
    (hsuffix : ∀ s ∈ r.suffix, IsSuffix s) :
    Denotes r.chars (.release major minor patch (r.suffix.map String.ofList))

section

variable {c : Char} {s t rest digits : List Char} {n : UInt64} {v : PlatformVersion}
  {suffix : Option String}

/-! ## Reading from the front -/

theorem isDigit_iff : c.isDigit = true ↔ IsDigit c := by
  simp [Char.isDigit, IsDigit, Char.le_def]

theorem isSuffixChar_iff : isSuffixChar c = true ↔ IsVersionChar c := by
  simp [isSuffixChar, Char.isAlphanum, Char.isAlpha, Char.isUpper, Char.isLower, isDigit_iff,
    IsVersionChar, IsLetter, Char.le_def, or_assoc]

theorem word64?_eq_some_iff : Text.word64? digits = some n ↔ Writes digits n := by
  rw [Text.word64?, Text.digitsToNat_eq, Option.ite_none_right_eq_some, Option.some.injEq,
    List.all_eq_true]
  constructor
  · rintro ⟨⟨hne, hdigits, hlt⟩, rfl⟩
    exact ⟨hne, fun c hc => isDigit_iff.1 (hdigits c hc), (UInt64.toNat_ofNat_of_lt' hlt).symm⟩
  · rintro ⟨hne, hdigits, hvalue⟩
    rw [hvalue]
    exact ⟨⟨hne, fun c hc => isDigit_iff.2 (hdigits c hc), n.toNat_lt⟩, UInt64.ofNat_toNat⟩

theorem takeNumber?_eq_some_iff : takeNumber? s = some (n, rest) ↔
    ∃ digits, s = digits ++ rest ∧ Writes digits n ∧ ∀ c ∈ rest.head?, c.isDigit = false := by
  rw [takeNumber?, Option.map_eq_some_iff]
  constructor
  · rintro ⟨m, hm, h⟩
    cases h
    refine ⟨s.takeWhile Char.isDigit, List.takeWhile_append_dropWhile.symm,
      word64?_eq_some_iff.1 hm, ?_⟩
    intro c hc
    have hstop := List.head?_dropWhile_not Char.isDigit s
    rw [hc] at hstop
    exact hstop
  · rintro ⟨digits, rfl, hwrites, hrest⟩
    obtain ⟨htake, hdrop⟩ :=
      Text.takeWhile_run (fun c hc => isDigit_iff.2 (hwrites.isDigit c hc)) hrest
    exact ⟨n, by rw [htake, word64?_eq_some_iff.2 hwrites], by rw [hdrop]⟩

theorem takePoint?_eq_some_iff : takePoint? s = some rest ↔ s = '.' :: rest := by
  unfold takePoint?
  split <;> simp_all

theorem suffix?_eq_some_iff : suffix? s = some suffix ↔
    ∃ t, s = ending t ∧ (∀ u ∈ t, IsSuffix u) ∧ suffix = t.map String.ofList := by
  constructor
  · intro h
    unfold suffix? at h
    split at h
    · cases h
      exact ⟨none, rfl, nofun, rfl⟩
    · rename_i c s
      rw [Option.ite_none_right_eq_some, List.all_eq_true] at h
      obtain ⟨hall, h⟩ := h
      cases h
      refine ⟨some (c :: s), rfl, ?_, rfl⟩
      rintro _ ⟨⟩
      exact ⟨List.cons_ne_nil c s, fun c hc => isSuffixChar_iff.1 (hall c hc)⟩
    · cases h
  · rintro ⟨t, rfl, ht, rfl⟩
    cases t with
    | none => rfl
    | some u =>
      obtain ⟨hne, hchars⟩ := ht u rfl
      cases u with
      | nil => exact absurd rfl hne
      | cons c u =>
        have hall : (c :: u).all isSuffixChar = true :=
          List.all_eq_true.2 fun c hc => isSuffixChar_iff.2 (hchars c hc)
        rw [ending, suffix?, if_pos hall]
        rfl

theorem head?_ending {digit : Char → Bool} (hhyphen : digit '-' = false)
    (t : Option (List Char)) : ∀ c ∈ (ending t).head?, digit c = false := by
  cases t with
  | none => exact nofun
  | some u =>
    rintro _ ⟨⟩
    exact hhyphen

theorem head?_point {digit : Char → Bool} (hpoint : digit '.' = false) (s : List Char) :
    ∀ c ∈ ('.' :: s).head?, digit c = false := by
  rintro _ ⟨⟩
  exact hpoint

theorem release?_eq_some_iff : release? s = some v ↔
    ∃ (r : ReleaseText) (major minor patch : UInt64), s = r.chars ∧ Writes r.major major ∧
      Writes r.minor minor ∧ Writes r.patch patch ∧ (∀ u ∈ r.suffix, IsSuffix u) ∧
      v = .release major minor patch (r.suffix.map String.ofList) := by
  simp only [release?, Option.bind_eq_bind, Option.bind_eq_some_iff, Prod.exists,
    takeNumber?_eq_some_iff, takePoint?_eq_some_iff, suffix?_eq_some_iff, Option.some.injEq]
  constructor
  · rintro ⟨major, _, ⟨a, rfl, ha, _⟩, _, rfl, minor, _, ⟨b, rfl, hb, _⟩, _, rfl, patch, _,
      ⟨c, rfl, hc, _⟩, _, ⟨t, rfl, ht, rfl⟩, rfl⟩
    exact ⟨⟨a, b, c, t⟩, major, minor, patch, rfl, ha, hb, hc, ht, rfl⟩
  · rintro ⟨r, major, minor, patch, rfl, ha, hb, hc, ht, rfl⟩
    exact ⟨major, _, ⟨r.major, rfl, ha, head?_point rfl _⟩, _, rfl, minor, _,
      ⟨r.minor, rfl, hb, head?_point rfl _⟩, _, rfl, patch, _,
      ⟨r.patch, rfl, hc, head?_ending rfl _⟩, _, ⟨r.suffix, rfl, ht, rfl⟩, rfl⟩

theorem denotes_dev_iff : Denotes s .dev ↔ s.map Char.toLower = ['d', 'e', 'v'] := by
  have hd {c : Char} : c.toLower = 'd' ↔ c = 'd' ∨ c = 'D' := Text.toLower_eq_iff rfl rfl rfl
  have he {c : Char} : c.toLower = 'e' ↔ c = 'e' ∨ c = 'E' := Text.toLower_eq_iff rfl rfl rfl
  have hv {c : Char} : c.toLower = 'v' ↔ c = 'v' ∨ c = 'V' := Text.toLower_eq_iff rfl rfl rfl
  simp only [List.map_eq_cons_iff, List.map_eq_nil_iff, hd, he, hv]
  constructor
  · rintro ⟨h₁, h₂, h₃⟩
    exact ⟨_, _, rfl, h₁, _, _, rfl, h₂, _, _, rfl, h₃, rfl⟩
  · rintro ⟨_, _, rfl, h₁, _, _, rfl, h₂, _, _, rfl, h₃, rfl⟩
    exact .dev h₁ h₂ h₃

theorem denotes_release_iff {major minor patch : UInt64} :
    Denotes s (.release major minor patch suffix) ↔
      release? s = some (.release major minor patch suffix) := by
  rw [release?_eq_some_iff]
  constructor
  · intro h
    generalize hv : PlatformVersion.release major minor patch suffix = v at h
    cases h with
    | dev => cases hv
    | release ha hb hc ht => exact ⟨_, _, _, _, rfl, ha, hb, hc, ht, rfl⟩
  · rintro ⟨r, _, _, _, rfl, ha, hb, hc, ht, h⟩
    cases h
    exact .release ha hb hc ht

/-- The text of a release has a point in it, which `dev` has not. -/
theorem ReleaseText.not_denotes_dev (r : ReleaseText) : ¬ Denotes r.chars .dev := by
  intro hdev
  have hpoint : '.' ∈ r.chars := by simp [chars]
  have hlower := List.mem_map_of_mem (f := Char.toLower) hpoint
  rw [denotes_dev_iff.1 hdev] at hlower
  exact absurd hlower (by decide)

theorem denotes_iff : Denotes s v ↔
    if s.map Char.toLower = ['d', 'e', 'v'] then v = .dev else release? s = some v := by
  split
  · rename_i hdev
    constructor
    · intro h
      cases h with
      | dev => rfl
      | release => exact absurd (denotes_dev_iff.2 hdev) (ReleaseText.not_denotes_dev _)
    · rintro rfl
      exact denotes_dev_iff.2 hdev
  · rename_i hdev
    cases v with
    | dev =>
      constructor
      · intro h
        exact absurd (denotes_dev_iff.1 h) hdev
      · intro h
        obtain ⟨_, _, _, _, _, _, _, _, _, h⟩ := release?_eq_some_iff.1 h
        cases h
    | release => exact denotes_release_iff

theorem parse_ok_iff {text : String} :
    parse text = .ok v ↔ Denotes (Text.trim text).toList v := by
  rw [parse, denotes_iff]
  split
  · rw [Except.ok.injEq, eq_comm]
  · cases release? (Text.trim text).toList with
    | none => simp
    | some w => simp

/-- What is no version is given back with its blanks. -/
theorem parse_error {text : String} {e : InvalidVersion} (h : parse text = .error e) :
    e = ⟨text⟩ := by
  rw [parse] at h
  split at h
  · cases h
  · split at h <;> cases h
    rfl

theorem parse_error_iff {text : String} {e : InvalidVersion} : parse text = .error e ↔
    e = ⟨text⟩ ∧ ∀ v, ¬ Denotes (Text.trim text).toList v := by
  simp only [← parse_ok_iff]
  cases hparse : parse text with
  | ok v => simp
  | error e' =>
    obtain rfl := parse_error hparse
    simp [eq_comm]

/-! ## Taking a release apart -/

theorem IsRun.mono {digit digit' : Char → Bool} (hdigit : ∀ c, digit c = true → digit' c = true)
    (h : IsRun digit s) : IsRun digit' s :=
  ⟨h.ne_nil, fun c hc => hdigit c (h.digit c hc)⟩

theorem IsRun.unique {digit : Char → Bool} {a b : List Char} (ha : IsRun digit a)
    (hb : IsRun digit b) (hs : ∀ c ∈ s.head?, digit c = false)
    (ht : ∀ c ∈ t.head?, digit c = false) (h : a ++ s = b ++ t) : a = b ∧ s = t := by
  obtain ⟨htake, hdrop⟩ := Text.takeWhile_run ha.digit hs
  obtain ⟨htake', hdrop'⟩ := Text.takeWhile_run hb.digit ht
  rw [h] at htake hdrop
  exact ⟨htake.symm.trans htake', hdrop.symm.trans hdrop'⟩

theorem ending_injective {t u : Option (List Char)} (h : ending t = ending u) : t = u := by
  cases t <;> cases u <;> simp_all [ending]

namespace ReleaseText

variable {digit digit' : Char → Bool} {r r' : ReleaseText}

theorem Fits.mono (hdigit : ∀ c, digit c = true → digit' c = true) (h : r.Fits digit) :
    r.Fits digit' :=
  ⟨h.major.mono hdigit, h.minor.mono hdigit, h.patch.mono hdigit, h.suffix⟩

/-- Whatever counts as a digit, if only points and hyphens do not, a text is a release in one way
at most. -/
theorem Fits.unique (hpoint : digit '.' = false) (hhyphen : digit '-' = false) (h : r.Fits digit)
    (h' : r'.Fits digit) (heq : r.chars = r'.chars) : r = r' := by
  obtain ⟨hmajor, heq⟩ :=
    h.major.unique h'.major (head?_point hpoint _) (head?_point hpoint _) heq
  obtain ⟨hminor, heq⟩ :=
    h.minor.unique h'.minor (head?_point hpoint _) (head?_point hpoint _) (List.cons.inj heq).2
  obtain ⟨hpatch, heq⟩ :=
    h.patch.unique h'.patch (head?_ending hhyphen _) (head?_ending hhyphen _) (List.cons.inj heq).2
  exact ReleaseText.ext hmajor hminor hpatch (ending_injective heq)

end ReleaseText

theorem Writes.isRun (h : Writes digits n) : IsRun Char.isDigit digits :=
  ⟨h.ne_nil, fun c hc => isDigit_iff.2 (h.isDigit c hc)⟩

/-- Whether a number is none that a version can have: it has a digit that is not of ASCII, or 64
bits do not hold it. -/
def Unreadable (digits : List Char) : Prop :=
  (∃ c ∈ digits, ¬ IsDigit c) ∨ 2 ^ 64 ≤ Nat.ofDigitChars 10 digits 0

theorem Writes.not_unreadable (h : Writes digits n) : ¬ Unreadable digits := by
  rintro (⟨c, hc, hdigit⟩ | hvalue)
  · exact hdigit (h.isDigit c hc)
  · rw [h.value] at hvalue
    exact absurd n.toNat_lt (Nat.not_lt.2 hvalue)

/-- A release has no version if one of its numbers is none that a version can have. -/
theorem not_denotes_of_unreadable {digit : Char → Bool} {r : ReleaseText}
    (hpoint : digit '.' = false) (hhyphen : digit '-' = false) (h : r.Fits digit)
    (hn : ∃ n ∈ r.numbers, Unreadable n) : ¬ Denotes r.chars v := by
  intro hv
  cases v with
  | dev => exact r.not_denotes_dev hv
  | release major minor patch suffix =>
    obtain ⟨r', _, _, _, heq, hmajor, hminor, hpatch, hsuffix, _⟩ :=
      release?_eq_some_iff.1 (denotes_release_iff.1 hv)
    -- Both ways to read the text take the digits of ASCII for digits, besides those of the class.
    have hfits : r.Fits fun c => digit c || c.isDigit := h.mono fun c hc => by simp [hc]
    have hfits' : r'.Fits fun c => digit c || c.isDigit :=
      ReleaseText.Fits.mono (fun c hc => by simp [hc])
        ⟨hmajor.isRun, hminor.isRun, hpatch.isRun, hsuffix⟩
    obtain rfl := hfits.unique (by simp [hpoint]) (by simp [hhyphen]) hfits' heq
    simp only [ReleaseText.numbers, List.mem_cons, List.not_mem_nil, or_false] at hn
    obtain ⟨n, rfl | rfl | rfl, hunreadable⟩ := hn
    · exact hmajor.not_unreadable hunreadable
    · exact hminor.not_unreadable hunreadable
    · exact hpatch.not_unreadable hunreadable

end

/-- A text is read as the version that it denotes without the blanks at its ends. If it denotes
none, it is given back, blanks and all; so is a text that is made like a release but has a number
with other digits than those of ASCII or of more than 64 bits. -/
theorem parse_grammar (text : String) :
    let s := (Text.trim text).toList
    Text.Trims text.toList s ∧
    (∀ v, parse text = .ok v ↔ Denotes s v) ∧
    (∀ e, parse text = .error e ↔ e = ⟨text⟩ ∧ ∀ v, ¬ Denotes s v) ∧
    ∀ (digit : Char → Bool) (r : ReleaseText), digit '.' = false → digit '-' = false →
      r.Fits digit → s = r.chars → (∃ n ∈ r.numbers, Unreadable n) →
      parse text = .error ⟨text⟩ := by
  refine ⟨Text.trims_trim text, fun v => parse_ok_iff, fun e => parse_error_iff, ?_⟩
  intro digit r hpoint hhyphen hfits heq hn
  rw [parse_error_iff, heq]
  exact ⟨rfl, fun v => not_denotes_of_unreadable hpoint hhyphen hfits hn⟩

example : parse "\u3000DeV\n" = .ok .dev := by decide

def isWideDigit (c : Char) : Bool := c.isDigit || ('\u0660' ≤ c && c ≤ '\u0669')

def wideRelease : ReleaseText := ⟨['1', '\u0662'], ['0'], ['3'], some ['x', '.']⟩

theorem fits_wideRelease : wideRelease.Fits isWideDigit where
  major := ⟨by decide, List.all_eq_true.1 (by decide)⟩
  minor := ⟨by decide, List.all_eq_true.1 (by decide)⟩
  patch := ⟨by decide, List.all_eq_true.1 (by decide)⟩
  suffix := by
    rintro _ ⟨⟩
    exact ⟨by decide, fun c hc => isSuffixChar_iff.1 (List.all_eq_true.1 (by decide) c hc)⟩

theorem parse_grammar_wideRelease :
    isWideDigit '.' = false ∧ isWideDigit '-' = false ∧ wideRelease.Fits isWideDigit ∧
    (Text.trim " 1\u0662.0.3-x.").toList = wideRelease.chars ∧
    parse " 1\u0662.0.3-x." = .error ⟨" 1\u0662.0.3-x."⟩ := by
  have hpoint : isWideDigit '.' = false := by decide
  have hhyphen : isWideDigit '-' = false := by decide
  have hchars : (Text.trim " 1\u0662.0.3-x.").toList = wideRelease.chars := by decide
  have hn : ∃ n ∈ wideRelease.numbers, Unreadable n :=
    ⟨['1', '\u0662'], by decide, .inl ⟨'\u0662', by decide, by decide⟩⟩
  obtain ⟨_, _, _, hwide⟩ := parse_grammar " 1\u0662.0.3-x."
  exact ⟨hpoint, hhyphen, fits_wideRelease, hchars,
    hwide isWideDigit wideRelease hpoint hhyphen fits_wideRelease hchars hn⟩

end PlatformVersion

end JobReport
