import TagTemplate.Text.Search

/-!
# Directives

The elements of the template language that do something instead of being written. Each is known by
its name behind the namespace prefix, and each says which attributes it cannot do without.
-/

namespace TagTemplate

/-- What a directive element does. -/
inductive Directive where
  /-- Sets an attribute on the enclosing element. -/
  | attr
  /-- Writes a file as it is. -/
  | cdata
  /-- Names a dictionary for translations. -/
  | dictionary
  /-- Runs a feed and mounts its result. -/
  | feed
  /-- Renders another template in its place. -/
  | embed
  /-- Mounts a value into the universe. -/
  | mount
  /-- Gives a macro an argument. -/
  | param
  /-- Looks a translation up. -/
  | trans
  /-- Writes the value of an expression. -/
  | val
  deriving Repr, DecidableEq

namespace Directive

/-- All directives. -/
def all : List Directive :=
  [attr, cdata, dictionary, feed, embed, mount, param, trans, val]

/-- The name that follows the namespace prefix. -/
def name : Directive → String
  | attr => "attr"
  | cdata => "cdata"
  | dictionary => "dictionary"
  | feed => "feed"
  | embed => "include"
  | mount => "mount"
  | param => "param"
  | trans => "trans"
  | val => "val"

/-- The directive of a name. -/
def ofName? (name : String) : Option Directive := all.find? fun d => d.name == name

/-- The directive that a tag names under a namespace prefix. -/
def ofTag? (nsPrefix tag : String) : Option Directive :=
  (Text.afterStart? nsPrefix tag).bind ofName?

/-- The attributes that must be given. -/
def required : Directive → List String
  | attr => ["name"]
  | cdata => ["file"]
  | dictionary => ["file", "name"]
  | feed => ["class"]
  | embed => ["file"]
  | mount => ["target"]
  | param => ["name"]
  | trans => []
  | val => ["value"]

theorem ofName?_name (d : Directive) : ofName? d.name = some d := by cases d <;> rfl

end Directive

end TagTemplate
