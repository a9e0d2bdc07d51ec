import Reckon.Json.Basic

/-!
# `Json.Printer` — documents as text

A `Layout` says whether fields and items stand on lines of their own, whether fields are sorted, and
whether characters beyond ASCII are escaped. Not-a-number and the infinities have words of their own.
-/

namespace Reckon.Json

/-- How a document is laid out. -/
structure Layout where
  /-- spaces per level, each item on a line of its own; without it all is on one line -/
  indent : Option Nat
  sortFields : Bool
  asciiOnly : Bool

namespace Layout

/-- All on one line, fields in their order, ASCII only. -/
def compact : Layout where
  indent := none
  sortFields := false
  asciiOnly := true

/-- What separates two items at a level. -/
def separator (layout : Layout) (level : Nat) : String :=
  match layout.indent with
  | none => ", "
  | some width => ",\n" ++ String.ofList (List.replicate (width * level) ' ')

/-- What stands before the first item at a level, and, one level up, after the last. -/
def lineBreak (layout : Layout) (level : Nat) : String :=
  match layout.indent with
  | none => ""
  | some width => "\n" ++ String.ofList (List.replicate (width * level) ' ')

end Layout

/-- The escape of one unit of sixteen bits. -/
def escapeUnit (n : Nat) : List Char :=
  '\\' :: 'u' :: Text.hexPadded 4 n

/-- One character of a text. Beyond sixteen bits an escape is a pair of units. -/
def escapeChar (asciiOnly : Bool) (c : Char) : List Char :=
  if c == '"' then ['\\', '"']
  else if c == '\\' then ['\\', '\\']
  else if c == '\n' then ['\\', 'n']
  else if c == '\r' then ['\\', 'r']
  else if c == '\t' then ['\\', 't']
  else if c.toNat = 0x0C then ['\\', 'f']
  else if c.toNat = 0x08 then ['\\', 'b']
  else if c.toNat < 0x20 then escapeUnit c.toNat
  else if asciiOnly && 0x7E < c.toNat then
    if c.toNat < 0x10000 then escapeUnit c.toNat
    else
      let offset := c.toNat - 0x10000
      escapeUnit (0xD800 + offset / 0x400) ++ escapeUnit (0xDC00 + offset % 0x400)
  else [c]

/-- A text between double quotes. -/
def printString (asciiOnly : Bool) (s : String) : String :=
  String.ofList ('"' :: s.toList.flatMap (escapeChar asciiOnly) ++ ['"'])

/-- A number that is not a whole number of the document. -/
def printReal (x : Float) : String :=
  if x.isNaN then "NaN"
  else if x.isInf then (if x < 0.0 then "-Infinity" else "Infinity")
  else Number.decimalText x

mutual

/-- A document at a level. -/
def printAt (layout : Layout) (level : Nat) : Json → String
  | null => "null"
  | boolean b => if b then "true" else "false"
  | integer n => toString n
  | real x => printReal x
  | string s => printString layout.asciiOnly s
  | list items =>
    match printItems layout (level + 1) items with
    | [] => "[]"
    | texts =>
      "[" ++ layout.lineBreak (level + 1) ++ (layout.separator (level + 1)).intercalate texts ++
        layout.lineBreak level ++ "]"
  | object fields =>
    let printed := printFields layout (level + 1) fields
    let ordered := if layout.sortFields then printed.mergeSort fun a b => a.1 ≤ b.1 else printed
    match ordered.map (·.2) with
    | [] => "\x7b\x7d"
    | texts =>
      "\x7b" ++ layout.lineBreak (level + 1) ++ (layout.separator (level + 1)).intercalate texts ++
        layout.lineBreak level ++ "\x7d"

/-- The items of a list. -/
def printItems (layout : Layout) (level : Nat) : List Json → List String
  | [] => []
  | item :: rest => printAt layout level item :: printItems layout level rest

/-- The fields of an object, each with its name. -/
def printFields (layout : Layout) (level : Nat) : List (String × Json) → List (String × String)
  | [] => []
  | (name, item) :: rest =>
    (name, printString layout.asciiOnly name ++ ": " ++ printAt layout level item) ::
      printFields layout level rest

end

/-- The text of a document. -/
def print (layout : Layout) (d : Json) : String :=
  printAt layout 0 d

end Reckon.Json
