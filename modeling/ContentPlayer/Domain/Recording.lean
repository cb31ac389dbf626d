import ContentPlayer.Domain.Module

namespace ContentPlayer

/-- Code that this executor lets fail. -/
def failingCode : String := "fail"

/-- Notes each call; only code that begins with the failing word fails, when it is to be run. -/
def Executor.recording {ω : Type} (note : String → ω → ω) : Executor ω where
  load w id code origin := (note s!"load {origin}" w, .ok ⟨id, origin, code⟩)
  execute w m :=
    (note s!"execute {m.origin}" w,
      if (Text.encode failingCode).isPrefixOf m.code then
        .error (.execution m.origin "recorded failure")
      else .ok ())
  construct w call :=
    (note s!"construct {call.target}" w,
      if failingCode.toList.isPrefixOf call.source.toList then
        .error (.runtime s!"constructor of {call.target} failed")
      else .ok ())

end ContentPlayer
