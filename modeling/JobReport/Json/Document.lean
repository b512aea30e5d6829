import JobReport.Json.Basic

/-!
# Documents

A document is a tree whose objects list their members by increasing name, so that each name
occurs once and equal documents are equal trees. Any tree becomes a document: of members with the
same name the last one stays.
-/

set_option autoImplicit false

namespace JobReport

namespace Json

variable {β : Type}

/-- Puts a member in the place of its name, over an earlier one of that name. -/
def putMember (name : String) (value : β) : List (String × β) → List (String × β)
  | [] => [(name, value)]
  | (k, v) :: ms =>
    if name < k then (name, value) :: (k, v) :: ms
    else if name = k then (name, value) :: ms
    else (k, v) :: putMember name value ms

/-- Members by strictly increasing name. -/
def Increasing (ms : List (String × β)) : Prop := ms.Pairwise fun a b => a.1 < b.1

theorem fst_mem_putMember {name : String} {value : β} {ms : List (String × β)}
    {x : String × β} (h : x ∈ putMember name value ms) : x = (name, value) ∨ x ∈ ms := by
  induction ms with
  | nil => simpa [putMember] using h
  | cons m ms ih =>
    obtain ⟨k, v⟩ := m
    simp only [putMember] at h
    split at h
    · simpa using h
    · split at h
      · rcases List.mem_cons.1 h with h | h
        · exact .inl h
        · exact .inr (List.mem_cons_of_mem _ h)
      · rcases List.mem_cons.1 h with h | h
        · exact .inr (by simp [h])
        · exact (ih h).imp id (List.mem_cons_of_mem _)

theorem increasing_putMember (name : String) (value : β) {ms : List (String × β)}
    (h : Increasing ms) : Increasing (putMember name value ms) := by
  induction ms with
  | nil => simp [putMember, Increasing]
  | cons m ms ih =>
    obtain ⟨k, v⟩ := m
    obtain ⟨hk, hms⟩ := List.pairwise_cons.1 h
    simp only [putMember]
    split
    · rename_i hlt
      refine List.pairwise_cons.2 ⟨fun x hx => ?_, h⟩
      rcases List.mem_cons.1 hx with rfl | hx
      · exact hlt
      · exact String.lt_trans hlt (hk x hx)
    · split
      · rename_i heq
        subst heq
        exact List.pairwise_cons.2 ⟨hk, hms⟩
      · rename_i hnlt hne
        refine List.pairwise_cons.2 ⟨fun x hx => ?_, ih hms⟩
        rcases fst_mem_putMember hx with rfl | hx
        · exact String.not_le.1 fun hle =>
            hne (String.le_antisymm hle (String.not_lt.1 hnlt))
        · exact hk x hx

mutual

/-- Whether every object of a tree lists its members by strictly increasing name. -/
def Ordered : Json → Prop
  | .arr xs => ItemsOrdered xs
  | .obj ms => Increasing ms ∧ MembersOrdered ms
  | _ => True

def ItemsOrdered : List Json → Prop
  | [] => True
  | x :: xs => x.Ordered ∧ ItemsOrdered xs

def MembersOrdered : List (String × Json) → Prop
  | [] => True
  | (_, x) :: ms => x.Ordered ∧ MembersOrdered ms

end

mutual

/-- The document of a tree. -/
def ordered : Json → Json
  | .arr xs => .arr (orderedItems xs)
  | .obj ms => .obj (orderedMembers ms [])
  | j => j

def orderedItems : List Json → List Json
  | [] => []
  | x :: xs => x.ordered :: orderedItems xs

/-- Puts members, one after the other, over those that are there. -/
def orderedMembers : List (String × Json) → List (String × Json) → List (String × Json)
  | [], before => before
  | (name, x) :: ms, before => orderedMembers ms (putMember name x.ordered before)

end

theorem membersOrdered_iff (ms : List (String × Json)) :
    MembersOrdered ms ↔ ∀ m ∈ ms, m.2.Ordered := by
  induction ms with
  | nil => simp [MembersOrdered]
  | cons m ms ih => obtain ⟨k, v⟩ := m; simp [MembersOrdered, ih]

theorem membersOrdered_putMember {name : String} {x : Json} {ms : List (String × Json)}
    (hx : x.Ordered) (h : MembersOrdered ms) : MembersOrdered (putMember name x ms) := by
  rw [membersOrdered_iff] at h ⊢
  intro m hm
  rcases fst_mem_putMember hm with rfl | hm
  · exact hx
  · exact h m hm

mutual

theorem ordered_ordered : (j : Json) → j.ordered.Ordered
  | .null => by simp [ordered, Ordered]
  | .bool _ => by simp [ordered, Ordered]
  | .int _ => by simp [ordered, Ordered]
  | .float _ => by simp [ordered, Ordered]
  | .str _ => by simp [ordered, Ordered]
  | .arr xs => by simpa [ordered, Ordered] using itemsOrdered_ordered xs
  | .obj ms => by
    simpa [ordered, Ordered] using
      membersOrdered_ordered ms [] List.Pairwise.nil (by simp [MembersOrdered])

theorem itemsOrdered_ordered : (xs : List Json) → ItemsOrdered (orderedItems xs)
  | [] => by simp [orderedItems, ItemsOrdered]
  | x :: xs => ⟨ordered_ordered x, itemsOrdered_ordered xs⟩

theorem membersOrdered_ordered : (ms before : List (String × Json)) → Increasing before →
    MembersOrdered before →
    Increasing (orderedMembers ms before) ∧ MembersOrdered (orderedMembers ms before)
  | [], _, h, h' => ⟨h, h'⟩
  | (name, x) :: ms, before, h, h' => by
    rw [orderedMembers]
    exact membersOrdered_ordered ms _ (increasing_putMember name _ h)
      (membersOrdered_putMember (ordered_ordered x) h')

end

mutual

/-- Sameness of trees, floating-point numbers being compared by value. -/
def same : Json → Json → Bool
  | .float a, .float b => Float.ofBits a == Float.ofBits b
  | .arr as, .arr bs => sameItems as bs
  | .obj as, .obj bs => sameMembers as bs
  | a, b => a == b

def sameItems : List Json → List Json → Bool
  | [], [] => true
  | a :: as, b :: bs => same a b && sameItems as bs
  | _, _ => false

def sameMembers : List (String × Json) → List (String × Json) → Bool
  | [], [] => true
  | (k, a) :: as, (l, b) :: bs => k == l && same a b && sameMembers as bs
  | _, _ => false

end

end Json

/-- A tree whose objects list their members by increasing name. -/
structure Document where
  json : Json
  ordered : json.Ordered

namespace Document

instance : DecidableEq Document := fun a b =>
  decidable_of_iff (a.json = b.json) (by
    constructor
    · intro h; cases a; cases b; cases h; rfl
    · rintro rfl; rfl)

def ofJson (j : Json) : Document := ⟨j.ordered, j.ordered_ordered⟩

def null : Document := ⟨.null, trivial⟩

end Document

end JobReport
