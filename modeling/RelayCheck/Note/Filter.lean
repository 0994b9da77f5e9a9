import RelayCheck.Json.Layout
import RelayCheck.Json.Printer

/-!
Filters: which events a client wants to see. What a filter does not mention is not restricted, and
not written either.
-/

set_option autoImplicit false

namespace RelayCheck.Note

open Json (Kind Layout Value)

structure Filter where
  ids : Option (List String)
  authors : Option (List String)
  kinds : Option (List UInt16)
  /-- The earliest time of an event, in seconds. -/
  since : Option Int64
  /-- The latest time of an event, in seconds. -/
  upTo : Option Int64
  /-- How many events are wanted at most. -/
  limit : Option UInt32
deriving DecidableEq, Repr

namespace Filter

def new : Filter :=
  { ids := none, authors := none, kinds := none, since := none, upTo := none, limit := none }

def withIds (filter : Filter) (ids : List String) : Filter :=
  { filter with ids := some ids }

def withAuthors (filter : Filter) (authors : List String) : Filter :=
  { filter with authors := some authors }

def withKinds (filter : Filter) (kinds : List UInt16) : Filter :=
  { filter with kinds := some kinds }

def withSince (filter : Filter) (since : Int64) : Filter :=
  { filter with since := some since }

def withUpTo (filter : Filter) (upTo : Int64) : Filter :=
  { filter with upTo := some upTo }

def withLimit (filter : Filter) (limit : UInt32) : Filter :=
  { filter with limit := some limit }

inductive Field
  | ids
  | authors
  | kinds
  | since
  | upTo
  | limit
deriving DecidableEq, Repr

/-- How a filter looks as JSON. Every member may be null, which is the same as not being there. -/
def layout : Layout Field where
  title := "struct Filter"
  fields := [.ids, .authors, .kinds, .since, .upTo, .limit]
  name
    | .ids => "ids"
    | .authors => "authors"
    | .kinds => "kinds"
    | .since => "since"
    | .upTo => "until"
    | .limit => "limit"
  kind
    | .ids | .authors => .optional (.list .string)
    | .kinds => .optional (.list (.whole .u16))
    | .since | .upTo => .optional (.whole .i64)
    | .limit => .optional (.whole .u32)

def filled (filter : Filter) : layout.Filled
  | .ids => filter.ids.map some
  | .authors => filter.authors.map some
  | .kinds => filter.kinds.map some
  | .since => filter.since.map some
  | .upTo => filter.upTo.map some
  | .limit => filter.limit.map some

def ofFilled (filled : layout.Filled) : Filter where
  ids := (filled .ids).getD none
  authors := (filled .authors).getD none
  kinds := (filled .kinds).getD none
  since := (filled .since).getD none
  upTo := (filled .upTo).getD none
  limit := (filled .limit).getD none

def ofTree (tree : Json.Tree) : Except Json.ReadError Filter := do
  return ofFilled (← layout.read true tree)

def ofValue (value : Value) : Except Json.ReadError Filter := do
  return ofFilled (← layout.ofValue true value)

def ofText (text : String) : Except Json.ReadError Filter :=
  (Json.Document.ofText text).read ofTree

def toValue (filter : Filter) : Value :=
  .object (Value.sortMembers (layout.members filter.filled))

def toText (filter : Filter) : String :=
  (Value.object (layout.members filter.filled)).toText

end Filter

end RelayCheck.Note
