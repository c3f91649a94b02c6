import Showrunner.Pattern.Match

namespace Showrunner.Trigger

inductive Kind where
  | start
  | after
  | onKey
  | onClick
  | atTime
  | eachTime
  | every
  | whenTrue
  | whileTrue
deriving DecidableEq, Repr

def Kind.name : Kind → String
  | .start => "Start"
  | .after => "After"
  | .onKey => "OnKey"
  | .onClick => "OnClick"
  | .atTime => "AtTime"
  | .eachTime => "EachTime"
  | .every => "Every"
  | .whenTrue => "When"
  | .whileTrue => "While"

def Kind.grammar : Kind → String
  | .start => "=/begin : */rest"
  | .after => "=/after : */rest"
  | .onKey => "=/on |/key|keypress ~/press : */rest"
  | .onClick => "=/on ~/mouse =/click : */rest"
  | .atTime => "=/at : */rest"
  | .eachTime => "=/each : */rest"
  | .every => "=/every : */rest"
  | .whenTrue => "=/when : */rest"
  | .whileTrue => "=/while : */rest"

def Kind.all : List Kind :=
  [.start, .after, .onKey, .onClick, .atTime, .eachTime, .every, .whenTrue, .whileTrue]

def grammars : List (Kind × Pattern.Spec) :=
  Kind.all.filterMap fun kind =>
    match Pattern.Spec.read kind.grammar with
    | .ok spec => some (kind, spec.caseInsensitive)
    | .error _ => none

/-- A trigger line: its kind, and the text after the words that tell the kind. -/
structure Declaration where
  kind : Kind
  argument : Option String
deriving DecidableEq, Repr

def classify? (words : List String) : Option Declaration :=
  grammars.findSome? fun (kind, spec) =>
    (spec.matchWords? words).map fun m => ⟨kind, m.text? "rest"⟩

end Showrunner.Trigger
