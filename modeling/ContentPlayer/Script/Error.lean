namespace ContentPlayer

inductive ScriptError where
  | compilation (reason : String)
  | runtime (reason : String)
  deriving DecidableEq, Repr

def ScriptError.message : ScriptError → String
  | .compilation reason => s!"Script compilation error: {reason}"
  | .runtime reason => s!"Script runtime error: {reason}"

structure ConstructorCall where
  target : String
  source : String
  deriving DecidableEq, Repr

end ContentPlayer
