import FieldSelect.Command.Check
import FieldSelect.Proofs.Engine.History
import FieldSelect.Proofs.Projection.IncludeAll
import FieldSelect.Proofs.Projection.Pruning
import FieldSelect.Proofs.Value.Narrowing

/-! Documents under a filter that includes everything. -/
namespace FieldSelect

namespace Engine

/-- A value without records is kept as it is. -/
theorem projectIn_of_isIncludeAll {filter : String} {tree : Tree} (compiled : FieldSelect.compile filter = .ok tree)
    (all : tree.isIncludeAll = true) (engine : Engine) (request : Request) {value : Value} (ordered : value.Ordered)
    (free : value.RecordFree) : (engine.projectIn tree baseView request value).1 = .ok value := by
  rw [projectIn, (engine.projector _).project_of_isIncludeAll compiled all ordered, Projector.whole,
    (engine.projector _).wholeWithin_recordFree free]
  rfl

end Engine

namespace CheckOptions

/-- A filter on the text of a document, without a view and without variables. -/
def plain (filter text : String) (pretty : Bool) : CheckOptions :=
  { filter, input := some text, pretty, dry := false, view := none, assignments := [] }

theorem isIncludeAll_of_everything {filter : String} (everything : filter = "" ∨ filter = "**") :
    ∃ tree, compile filter = .ok tree ∧ tree.isIncludeAll = true := by
  rcases everything with rfl | rfl
  · exact ⟨_, rfl, rfl⟩
  · exact ⟨_, rfl, rfl⟩

/-- The command gives the document back as values hold it. -/
theorem check_of_isIncludeAll {filter text : String} {document : Json} (accepted : Json.read text = .ok document)
    {tree : Tree} (compiled : compile filter = .ok tree) (all : tree.isIncludeAll = true) (pretty : Bool) :
    (plain filter text pretty).check = .ok (.document document.narrowed) := by
  obtain ⟨engine, built⟩ : ∃ engine, (Blueprint.ofSettings Settings.standard).build = .ok engine := ⟨_, rfl⟩
  obtain ⟨remembered, ready⟩ := (Engine.serves_of_build built).compile filter
  have settings : (plain filter text pretty).settings = Settings.standard := rfl
  have view : (engine.compile filter).2.settings.defaultView = baseView := congrArg Settings.defaultView ready.settings
  have proper := Json.proper_of_read accepted
  have kept := (engine.compile filter).2.projectIn_of_isIncludeAll compiled all Request.empty
    (Value.ordered_ofJson proper) (Value.recordFree_ofJson proper)
  have projected : (plain filter text pretty).project = .ok document.narrowed := by
    rw [project, settings, built]
    simp only [plain, request, List.foldlM_nil, accepted, Except.mapError, bind, Except.bind, pure,
      Except.pure]
    rw [remembered, compiled]
    dsimp only
    rw [view, kept]
    exact congrArg Except.ok (Value.toJson_ofJson proper)
  exact congrArg (Except.map CheckResult.document) projected

/-- A filter that includes everything gives back each document that can be read, but with its integers narrowed, so it
gives back the document itself just where no integer in it takes all 64 bits. -/
theorem check_everything {filter : String} (everything : filter = "" ∨ filter = "**") {text : String} {document : Json}
    (accepted : Json.read text = .ok document) (pretty : Bool) :
    (plain filter text pretty).check = .ok (.document document.narrowed) ∧
      (document.narrowed = document ↔ ∀ n, Json.Part (.integer n) document → n < 2 ^ 63) := by
  obtain ⟨tree, compiled, all⟩ := isIncludeAll_of_everything everything
  exact ⟨check_of_isIncludeAll accepted compiled all pretty, document.narrowed_eq_self⟩

theorem check_everything_of_extremes :
    let text := "\x7b\"b\": [9223372036854775808, -9223372036854775808], \"a\": \x7b\"c\": 2.50, \"c\": -0\x7d\x7d"
    ∃ document, Json.read text = .ok document ∧
      document.compact = "\x7b\"a\":\x7b\"c\":-0.0\x7d,\"b\":[9223372036854775808,-9223372036854775808]\x7d" ∧
      (plain "**" text true).check = .ok (.document document.narrowed) ∧
        (document.narrowed = document ↔ ∀ n, Json.Part (.integer n) document → n < 2 ^ 63) := by
  intro text
  have printed : (Json.read text).map Json.compact =
      .ok "\x7b\"a\":\x7b\"c\":-0.0\x7d,\"b\":[9223372036854775808,-9223372036854775808]\x7d" := by decide +kernel
  cases accepted : Json.read text with
  | error error =>
    rw [accepted] at printed
    cases printed
  | ok document =>
    rw [accepted] at printed
    exact ⟨document, rfl, Except.ok.inj printed, check_everything (.inr rfl) accepted true⟩

/-- The largest integer that a document can hold comes back as the float above it. -/
theorem check_loses_largest_integer :
    Json.read "18446744073709551615" = .ok (.integer 18446744073709551615) ∧
      (plain "" "18446744073709551615" false).check ≠ .ok (.document (.integer 18446744073709551615)) := by
  have accepted : Json.read "18446744073709551615" = .ok (.integer 18446744073709551615) := by rfl
  obtain ⟨tree, compiled, all⟩ := isIncludeAll_of_everything (.inl rfl)
  refine ⟨accepted, ?_⟩
  rw [check_of_isIncludeAll accepted compiled all]
  intro same
  cases same

end CheckOptions
end FieldSelect
