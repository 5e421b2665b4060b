import TagTemplate.Cache.Basic
import TagTemplate.Config
import TagTemplate.Function.Native

/-!
# What rendering reads from

The settings, the added functions, and the two kinds of collaborators: feeds, which bring data from
outside, and a translator.
-/

namespace TagTemplate

/-- Gives a value for named parameters. -/
abbrev Feed := OrderedMap Value → Except Error Value

/-- Feeds by the names of their classes. -/
abbrev FeedFactory := String → Option Feed

/-- What a translator is asked. -/
structure TranslationRequest where
  language : Option String
  /-- The dictionary to look in. -/
  source : Option String
  /-- The file that a template gave for the dictionary. -/
  dictionaryFile : Option String
  key : String
  deriving Repr, DecidableEq

/-- Gives a translation, or none to keep the template's own text. -/
abbrev Translator := TranslationRequest → Option String

/-- What all templates of a rendering share and none of them changes. -/
structure Environment where
  config : Config
  functions : Registry
  /-- The factories asked for feeds, in this order. -/
  feeds : List FeedFactory
  translator : Option Translator
  cache : Option Cache

end TagTemplate
