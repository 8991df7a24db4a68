import ScenarioDesk.Gherkin.KeywordLine
import ScenarioDesk.Scenario.Collection

/-!
The vocabulary of a collection: the words of its steps without their keywords, each once, in the
order of their first use.
-/

namespace ScenarioDesk.Collection

/-- The steps of one scenario, in order. -/
def stepsOf (scenario : Scenario) : List Text :=
  (Text.normalizedLines scenario.content).filterMap stepText?

/-- The distinct steps of all scenarios. -/
def vocabulary (scenarios : Collection) : List Text :=
  (scenarios.flatMap stepsOf).eraseDups

theorem mem_vocabulary {scenarios : Collection} {step : Text} :
    step ∈ scenarios.vocabulary ↔ ∃ scenario ∈ scenarios, step ∈ stepsOf scenario := by
  simp [vocabulary]

end ScenarioDesk.Collection
