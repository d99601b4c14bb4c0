/-!
The events a parser announces while it walks a style sheet. Each has a symbolic name, which is the
key of the default registry, and an identifier, under which a runner emits it.
-/
namespace EventTasks

inductive ParseEvent where
  | root | rule | ruleset | selector | selectors | variableRule | importRule | comment
  | mixin | mixinDefinition | mixinCall | media | notRecognised
deriving DecidableEq, Repr

namespace ParseEvent

def all : List ParseEvent :=
  [root, rule, ruleset, selector, selectors, variableRule, importRule, comment,
    mixin, mixinDefinition, mixinCall, media, notRecognised]

def name : ParseEvent → String
  | root => "ROOT"
  | rule => "RULE"
  | ruleset => "RULESET"
  | selector => "SELECTOR"
  | selectors => "SELECTORS"
  | variableRule => "VARIABLE"
  | importRule => "IMPORT"
  | comment => "COMMENT"
  | mixin => "MIXIN"
  | mixinDefinition => "MIXIN_DEFINITION"
  | mixinCall => "MIXIN_CALL"
  | media => "MEDIA"
  | notRecognised => "NOT_RECOGNISED"

def identifier : ParseEvent → String
  | root => "parse:root"
  | rule => "parse:rule"
  | ruleset => "parse:ruleset"
  | selector => "parse:selector"
  | selectors => "parse:selectors"
  | variableRule => "parse:variable"
  | importRule => "parse:import"
  | comment => "parse:comment"
  | mixin => "parse:mixin"
  | mixinDefinition => "parse:mixin_definition"
  | mixinCall => "parse:mixin_call"
  | media => "parse:media"
  | notRecognised => "parse:not_recognised"

def ofName? (s : String) : Option ParseEvent := all.find? fun e => e.name == s

def ofIdentifier? (s : String) : Option ParseEvent := all.find? fun e => e.identifier == s

/-- The default `events` of a task: symbolic name and identifier of every event. -/
def registry : List (String × String) := all.map fun e => (e.name, e.identifier)

/-- `ParseEvent.handler`. -/
def handler : ParseEvent → String
  | root => "on_root"
  | rule => "on_rule"
  | ruleset => "on_ruleset"
  | selector => "on_selector"
  | selectors => "on_selectors"
  | variableRule => "on_variable"
  | importRule => "on_import"
  | comment => "on_comment"
  | mixin => "on_mixin"
  | mixinDefinition => "on_mixin_definition"
  | mixinCall => "on_mixin_call"
  | media => "on_media"
  | notRecognised => "on_not_recognised"

def parameter : ParseEvent → String
  | ruleset => "rule"
  | importRule => "import_rule"
  | mixinDefinition => "mixin_def"
  | notRecognised => "node"
  | root => "root"
  | rule => "rule"
  | selector => "selector"
  | selectors => "selectors"
  | variableRule => "variable"
  | comment => "comment"
  | mixin => "mixin"
  | mixinCall => "mixin_call"
  | media => "media"

end ParseEvent

end EventTasks
