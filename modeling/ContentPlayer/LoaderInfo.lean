namespace ContentPlayer

/-- Which loading of content brought something here. -/
structure LoaderInfo where
  url : String
  version : UInt8
  deriving DecidableEq, Repr

end ContentPlayer
