import Cadence.Log
import Cadence.Pattern.Meaning
import Cadence.Text.Parts

/-!
Log filters: directives between commas, each a level, a target prefix, or both
with an equals sign.  The longest prefix of a line's target decides; a directive
without one decides for all other targets, which are off without it.  A pattern
behind a slash must occur in the message.
-/

namespace Cadence.Log

/-- Up to which level lines pass; nothing passes without one. -/
structure Directive where
  name : Option String
  level : Option Level
deriving DecidableEq, Repr

/-- The name by which a level is asked for, in any case; `some none` is off. -/
def levelOfName? (name : String) : Option (Option Level) :=
  let upper := String.ofList (name.toList.map Char.toUpper)
  if upper == "OFF" then some none
  else (Level.all.find? fun level => level.name == upper).map some

structure Filter where
  directives : List Directive
  required : Option Pattern
deriving DecidableEq, Repr

namespace Filter

/-- What a list of directives reads as, and what it complains about. -/
structure Parsed where
  directives : List Directive
  complaints : List String

/-- One directive: a level, a prefix, or both; otherwise a complaint. -/
def parseDirective (text : List Char) : Except String Directive :=
  match Text.parts '=' text with
  | [part] =>
      let name := String.ofList part
      match levelOfName? name with
      | some level => .ok ⟨none, level⟩
      | none => .ok ⟨some name, some .trace⟩
  | [name, level] =>
      let level := String.ofList (Text.trim level)
      let name := String.ofList name
      if level.isEmpty then .ok ⟨some name, some .trace⟩
      else
        match levelOfName? level with
        | some level => .ok ⟨some name, level⟩
        | none => .error ("invalid logging spec '" ++ level ++ "'")
  | _ => .error ("invalid logging spec '" ++ String.ofList text ++ "'")

/-- Puts a directive behind the others, or in the place of the one with the same
name. -/
def insert (directives : List Directive) (directive : Directive) :
    List Directive :=
  if directives.any fun old => old.name == directive.name then
    directives.map fun old => if old.name = directive.name then directive else old
  else directives ++ [directive]

/-- Directives between commas. -/
def parseDirectives (text : List Char) : Parsed :=
  ((Text.parts ',' text).map Text.trim).foldl
    (fun parsed part =>
      if part.isEmpty then parsed
      else
        match parseDirective part with
        | .ok directive =>
            { parsed with directives := insert parsed.directives directive }
        | .error complaint =>
            { parsed with complaints := parsed.complaints ++ [complaint] })
    ⟨[], []⟩

/-- A filter that lets errors pass, for want of any directive. -/
def ofDirectives (directives : List Directive) (required : Option Pattern) :
    Filter :=
  ⟨if directives.isEmpty then [⟨none, some .error⟩] else directives, required⟩

/-- The pattern that a text writes, or a complaint about it. -/
def parseRequired (text : List Char) : Option Pattern × List String :=
  match Pattern.ofText text with
  | .ok pattern => (some pattern, [])
  | .error report => (none, ["invalid regex filter - " ++ report])

/-- The filter that a text describes, and complaints about it. -/
def parse (text : String) : Filter × List String :=
  match Text.parts '/' text.toList with
  | [directives] =>
      let parsed := parseDirectives directives
      (ofDirectives parsed.directives none, parsed.complaints)
  | [directives, required] =>
      let parsed := parseDirectives directives
      let (pattern, complaints) := parseRequired required
      (ofDirectives parsed.directives pattern, parsed.complaints ++ complaints)
  | _ =>
      (ofDirectives [] none,
        ["invalid logging spec '" ++ text ++ "' (too many '/'s)"])

/-- The filter for want of a description: warnings and errors. -/
def standard : Filter := ofDirectives [⟨none, some .warn⟩] none

def Directive.length (directive : Directive) : Nat :=
  (directive.name.map String.utf8ByteSize).getD 0

/-- Whether a directive speaks about a target. -/
def Directive.covers (directive : Directive) (target : String) : Bool :=
  directive.name.all fun name => name.isPrefixOf target

/-- The later one of the longest directives that speak about a target. -/
def deciding? (filter : Filter) (target : String) : Option Directive :=
  filter.directives.foldl
    (fun best directive =>
      if !Directive.covers directive target then best
      else
        match best with
        | none => some directive
        | some old =>
            if Directive.length directive < Directive.length old then best
            else some directive)
    none

/-- Whether lines of a level may pass under a target. -/
def enables (filter : Filter) (level : Level) (target : String) : Bool :=
  match filter.deciding? target with
  | none => false
  | some directive => directive.level.any fun most => level.rank ≤ most.rank

def accepts (filter : Filter) (line : Line) : Bool :=
  filter.enables line.level line.target &&
    filter.required.all fun pattern => pattern.occursIn line.message.toList

end Filter

end Cadence.Log
