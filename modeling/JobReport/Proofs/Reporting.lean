import JobReport.Main
import Mathlib.Data.List.Basic

/-!
# What is reported of a failure

A report begins with the stage that failed. The causes follow, one after the other, and each of
them with all of its lines. They are set in under the stage, so that a cause of several lines is in
the report line by line and not as it stands.
-/

set_option autoImplicit false

namespace JobReport

/-- Whether texts stand in a text, each after those before it. -/
def InOrder (parts : List String) (text : String) : Prop :=
  ∃ pieces, text = String.join pieces ∧ parts.Sublist pieces

def linesOf (message : String) : List String :=
  (Text.split '\n' message.toList).map String.ofList

/-- The stage that a failure is of, and what is wrong there. A view that is built from its record
alone has no stage of that name, and what is wrong tells of it. -/
def Command.Failure.told : Command.Failure → List String
  | .settings cause => ["loading configuration", cause.message]
  | .reading path cause => ["reading " ++ path.text, cause.message]
  | .parsing path cause => ["parsing " ++ path.text, cause.message]
  | .fullJob id cause =>
    ["building full job info for job " ++ String.ofList (Json.intChars id.toInt), cause.message]
  | .synchronousJob id cause => ["building synchronous job view " ++ id.text, cause.message]
  | .version cause => ["parsing platform version", cause.message]
  | .view cause => [cause.message]

section

variable {parts parts' : List String} {text text' : String}

theorem InOrder.mono (h : InOrder parts text) (hparts : parts'.Sublist parts) :
    InOrder parts' text := by
  obtain ⟨pieces, htext, hpieces⟩ := h
  exact ⟨pieces, htext, hparts.trans hpieces⟩

theorem inOrder_nil (text : String) : InOrder [] text :=
  ⟨[text], by simp, List.nil_sublist _⟩

theorem InOrder.append (h : InOrder parts text) (h' : InOrder parts' text') :
    InOrder (parts ++ parts') (text ++ text') := by
  obtain ⟨pieces, rfl, hpieces⟩ := h
  obtain ⟨pieces', rfl, hpieces'⟩ := h'
  exact ⟨pieces ++ pieces', by simp, hpieces.append hpieces'⟩

theorem InOrder.after (h : InOrder parts text) (before : String) :
    InOrder parts (before ++ text) :=
  (inOrder_nil before).append h

theorem InOrder.before (h : InOrder parts text) (after : String) : InOrder parts (text ++ after) :=
  List.append_nil parts ▸ h.append (inOrder_nil after)

theorem inOrder_intercalate (separator : String) (parts : List String) :
    InOrder parts (separator.intercalate parts) := by
  induction parts with
  | nil => exact inOrder_nil _
  | cons part parts ih =>
    have hpart : InOrder [part] part := ⟨[part], by simp, List.Sublist.refl _⟩
    cases parts with
    | nil => simpa using hpart
    | cons next parts =>
      rw [String.intercalate_cons_cons, String.append_assoc]
      exact hpart.append (ih.after separator)

end

namespace Program

theorem inOrder_setIn (indent message : String) :
    InOrder (linesOf message) (setIn indent message) :=
  inOrder_intercalate _ _

theorem inOrder_mapIdx {shown : Nat → String → String}
    (h : ∀ i cause, InOrder (linesOf cause) (shown i cause)) (causes : List String) :
    InOrder (causes.flatMap linesOf) (String.join (causes.mapIdx shown)) := by
  induction causes generalizing shown with
  | nil => exact inOrder_nil _
  | cons cause causes ih =>
    rw [List.mapIdx_cons, String.join_cons, List.flatMap_cons]
    exact (h 0 cause).append (ih fun i => h (i + 1))

/-- No line of a cause is missing, whether the causes are numbered or not. -/
theorem inOrder_reportCauses (causes : List String) :
    InOrder (causes.flatMap linesOf) (reportCauses causes) := by
  rw [reportCauses.eq_def]
  split
  · exact inOrder_nil _
  · rw [List.flatMap_singleton]
    exact (inOrder_setIn _ _).after _
  · exact (inOrder_mapIdx (fun i cause => (inOrder_setIn _ cause).after _) causes).after _

theorem told_prefix_chain (why : Command.Failure) : why.told <+: why.chain := by
  have hsettings : ∀ cause : SettingsError, [cause.message] <+: cause.chain := by
    intro cause
    cases cause with
    | envFile path fault => cases fault <;> exact List.prefix_append [_] _
    | _ => exact List.prefix_append [_] _
  have hview : ∀ cause : ViewError, [cause.message] <+: cause.chain := by
    intro cause
    cases cause <;> exact List.prefix_append [_] _
  cases why with
  | settings cause | version cause => exact (List.prefix_cons_inj _).2 (hsettings cause)
  | reading path cause | parsing path cause => exact List.prefix_rfl
  | fullJob id cause | synchronousJob id cause => exact (List.prefix_cons_inj _).2 (hview cause)
  | view cause => exact hview cause

/-- The report of a failure begins with its stage and goes on to what is wrong there. -/
theorem report_told (why : Command.Failure) : ∃ stage causes rest, why.told = stage :: causes ∧
    report why.chain = "Error: " ++ stage ++ rest ∧ InOrder (causes.flatMap linesOf) rest := by
  obtain ⟨more, hchain⟩ := told_prefix_chain why
  cases htold : why.told with
  | nil => cases why <;> cases htold
  | cons stage causes =>
    refine ⟨stage, causes, reportCauses (causes ++ more) ++ "\n", rfl, ?_, ?_⟩
    · rw [← hchain, htold]
      exact String.append_assoc
    · refine ((inOrder_reportCauses (causes ++ more)).before "\n").mono ?_
      rw [List.flatMap_append]
      exact List.sublist_append_left _ _

end Program

end JobReport
