import JobReport.Proofs.Records

/-!
# Records come back from their texts

The record of every job, of every synchronous job and of every response to one is read back from
the text it is printed as, if the schemas and outputs that come with it have no floating-point
numbers. A text that was accepted is printed as a text of the same record, which is printed as
itself.
-/

set_option autoImplicit false

namespace JobReport

namespace Codec

variable {α : Type}

/-- The text that the value of a text is printed as. -/
def canonical (c : Codec α) (text : String) : Except Fault String := (c.parse text).map c.print

/-- Whether the values with a property are read back from their texts, if these are not nested too
deep, and whether every text of such a value has a canonical one, which is its own. -/
def RoundTrips (c : Codec α) (good : α → Prop) : Prop :=
  (∀ a, good a → (c.encode a).depth ≤ nestingLimit → c.parse (c.print a) = .ok a) ∧
    ∀ text a, c.parse text = .ok a → good a → ∃ text', c.canonical text = .ok text' ∧
      c.parse text' = .ok a ∧ c.canonical text' = .ok text'

theorem roundTrips_of_bounded {c : Codec α} {good : α → Prop} {b : Nat}
    (hreturns : ∀ a, good a → c.Returns a) (hbounded : c.Bounded b) (hb : b ≤ nestingLimit) :
    c.RoundTrips good := by
  constructor
  · intro a ha hdepth
    exact (hreturns a ha).parse_print hdepth
  · intro text a htext ha
    -- What was read within the limit is also written within it.
    have hdepth := hbounded.parse hb htext
    have hback := (hreturns a ha).parse_print hdepth
    refine ⟨c.print a, ?_, hback, ?_⟩
    · rw [canonical, htext]
      rfl
    · rw [canonical, hback]
      rfl

end Codec

/-- Jobs, synchronous jobs and responses are read back from their texts, and their accepted texts
have canonical ones. -/
theorem records_round_trip :
    Job.codec.RoundTrips Job.FloatFree ∧ SynchronousJob.codec.RoundTrips (fun _ => True) ∧
      (SynchronousResponse.codec .document).RoundTrips SynchronousResponse.FloatFree := by
  refine ⟨?_, ?_, ?_⟩
  · exact Codec.roundTrips_of_bounded (fun job h => Job.returns h) Job.bounded (by decide)
  · exact Codec.roundTrips_of_bounded (fun job _ => SynchronousJob.faithful.returns job)
      SynchronousJob.bounded (by decide)
  · exact Codec.roundTrips_of_bounded (fun r h => SynchronousResponse.returns h)
      SynchronousResponse.bounded (by decide)

/-- A refresh of a stream with a schema, and of one that an old record does not name. -/
def refreshedJob : Job where
  id := 7
  scope := "connection"
  config := .refresh
    ⟨some ⟨[⟨⟨"users", none, .ofJson (.obj [("type", .str "object")])⟩, none, none⟩]⟩,
      [⟨some ⟨"users", none⟩, some .merge⟩, ⟨none, none⟩]⟩
  status := .running
  createdAt := 1
  updatedAt := 2
  startedAt := none
  attempts := []

theorem refreshedJob_round_trip :
    refreshedJob.FloatFree ∧ (Job.codec.encode refreshedJob).depth ≤ nestingLimit ∧
      Job.codec.parse (Job.codec.print refreshedJob) = .ok refreshedJob := by
  have hfree : refreshedJob.FloatFree := by
    intro catalog hcatalog s hs
    cases hcatalog
    obtain rfl := List.mem_singleton.1 hs
    exact ⟨trivial, trivial⟩
  have hdepth : (Job.codec.encode refreshedJob).depth ≤ nestingLimit := by decide
  exact ⟨hfree, hdepth, records_round_trip.1.1 refreshedJob hfree hdepth⟩

end JobReport
