/-!
# Settings
-/

namespace TagTemplate

/-- The settings of a view. -/
structure Config where
  /-- The directory that the paths of cached templates are relative to. -/
  templatesRoot : Option String
  /-- Where cached templates are kept; without it nothing is cached. -/
  cacheRoot : Option String
  /-- The language to translate to. -/
  language : Option String
  /-- Elements that depend on no data are folded into text. -/
  fold : Bool
  /-- How deeply templates may include each other. -/
  maxIncludeDepth : Nat
  deriving Repr, DecidableEq

/-- The settings where none are given. -/
def Config.standard : Config := ⟨none, none, none, true, 32⟩

instance : Inhabited Config := ⟨.standard⟩

end TagTemplate
