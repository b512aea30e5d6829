import JobReport.Record.Shape

/-!
# Feature flags

A set of flags, listed by increasing name.
-/

set_option autoImplicit false

namespace JobReport

namespace FeatureFlags

/-- Puts a name in its place, unless it is there already. -/
def insertName (name : String) : List String → List String
  | [] => [name]
  | k :: ks =>
    if name < k then name :: k :: ks
    else if name = k then k :: ks
    else k :: insertName name ks

theorem mem_insertName {name k : String} {ks : List String} :
    k ∈ insertName name ks ↔ k = name ∨ k ∈ ks := by
  induction ks with
  | nil => simp [insertName]
  | cons l ls ih =>
    simp only [insertName]
    split
    · simp
    · split
      · rename_i h
        subst h
        simp
      · simp only [List.mem_cons, ih]
        grind

theorem pairwise_insertName (name : String) {ks : List String} (h : ks.Pairwise (· < ·)) :
    (insertName name ks).Pairwise (· < ·) := by
  induction ks with
  | nil => simp [insertName]
  | cons k ks ih =>
    obtain ⟨hk, hks⟩ := List.pairwise_cons.1 h
    simp only [insertName]
    split
    · rename_i hlt
      refine List.pairwise_cons.2 ⟨fun x hx => ?_, h⟩
      rcases List.mem_cons.1 hx with rfl | hx
      · exact hlt
      · exact String.lt_trans hlt (hk x hx)
    · split
      · exact h
      · rename_i hnlt hne
        refine List.pairwise_cons.2 ⟨fun x hx => ?_, ih hks⟩
        rcases mem_insertName.1 hx with rfl | hx
        · exact String.not_le.1 fun hle =>
            hne (String.le_antisymm hle (String.not_lt.1 hnlt))
        · exact hk x hx

theorem insertName_of_lt {name : String} {ks : List String} (h : ∀ k ∈ ks, name < k) :
    insertName name ks = name :: ks := by
  cases ks with
  | nil => rfl
  | cons k ks => simp [insertName, h k (by simp)]

end FeatureFlags

structure FeatureFlags where
  enabled : List String
  increasing : enabled.Pairwise (· < ·)
  deriving DecidableEq

namespace FeatureFlags

def ofList (names : List String) : FeatureFlags :=
  ⟨names.foldr insertName [], by
    induction names with
    | nil => simp
    | cons name names ih => exact pairwise_insertName name ih⟩

theorem mem_ofList {name : String} {names : List String} :
    name ∈ (ofList names).enabled ↔ name ∈ names := by
  change name ∈ names.foldr insertName [] ↔ name ∈ names
  induction names with
  | nil => simp
  | cons k ks ih => rw [List.foldr_cons, mem_insertName, List.mem_cons, ih]

theorem ofList_enabled (flags : FeatureFlags) : ofList flags.enabled = flags := by
  obtain ⟨names, h⟩ := flags
  suffices hs : names.foldr insertName [] = names by simp [ofList, hs]
  induction names with
  | nil => rfl
  | cons name names ih =>
    obtain ⟨hlt, hs⟩ := List.pairwise_cons.1 h
    rw [List.foldr_cons, ih hs, insertName_of_lt hlt]

def isEnabled (flags : FeatureFlags) (name : String) : Bool := flags.enabled.contains name

def shape : Shape FeatureFlags where
  title := "FeatureFlags"
  types := _
  fields := .cons (.required "enabled" Codec.string.list) .nil
  make := fun (names, ()) => ofList names
  unmake f := (f.enabled, ())
  make_unmake := ofList_enabled

def codec : Codec FeatureFlags := .record shape

end FeatureFlags

end JobReport
