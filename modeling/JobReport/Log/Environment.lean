import JobReport.Record.Named
import JobReport.Text.Blank
import JobReport.Text.Lowercase

/-!
# Worker environments

Where the workers that wrote the logs ran.
-/

set_option autoImplicit false

namespace JobReport

inductive WorkerEnvironment where
  | docker
  | kubernetes
  deriving DecidableEq, Repr

instance : Named WorkerEnvironment where
  typeName := "WorkerEnvironment"
  all := [.docker, .kubernetes]
  name
    | .docker => "docker"
    | .kubernetes => "kubernetes"
  find_name a := by cases a <;> rfl

namespace WorkerEnvironment

/-- The environment that a text names, whatever its case and the blanks around it. A text that
names none is given back trimmed and in lowercase. -/
def parse (text : String) : Except String WorkerEnvironment :=
  let name := Text.lowercase (Text.trim text)
  if name = "docker" then .ok .docker
  else if name = "kubernetes" ∨ name = "k8s" then .ok .kubernetes
  else .error name

def codec : Codec WorkerEnvironment := .named WorkerEnvironment

end WorkerEnvironment

end JobReport
