import Chronomata.Json.Basic
import Chronomata.Text.Basic

-- Writing documents in object notation, on one line or indented.
namespace Chronomata.Json

-- How one character stands between quotes: only quotes, backslashes and controls are escaped.
def escapeChar (c : Char) : List Char :=
  match c with
  | '"' => ['\\', '"']
  | '\\' => ['\\', '\\']
  | '\x08' => ['\\', 'b']
  | '\x0c' => ['\\', 'f']
  | '\n' => ['\\', 'n']
  | '\r' => ['\\', 'r']
  | '\t' => ['\\', 't']
  | c => if c.toNat < 0x20 then ['\\', 'u'] ++ Text.hexNat 4 c.toNat else [c]

def writeText (text : String) : List Char := '"' :: text.toList.flatMap escapeChar ++ ['"']

mutual

def write : Json → List Char
  | .null | .unreadable => "null".toList
  | .bool true => "true".toList
  | .bool false => "false".toList
  | .number written => written.toList
  | .text value => writeText value
  | .list [] => ['[', ']']
  | .list (first :: rest) => '[' :: (write first ++ writeItems rest)
  | .record [] => ['\x7b', '\x7d']
  | .record ((key, value) :: rest) =>
    '\x7b' :: (writeText key ++ ':' :: (write value ++ writeMembers rest))

def writeItems : List Json → List Char
  | [] => [']']
  | item :: rest => ',' :: (write item ++ writeItems rest)

def writeMembers : List (String × Json) → List Char
  | [] => ['\x7d']
  | (key, value) :: rest => ',' :: (writeText key ++ ':' :: (write value ++ writeMembers rest))

end

def compact (j : Json) : String := String.ofList (write j)

def newLine (depth : Nat) : List Char := '\n' :: List.replicate (2 * depth) ' '

mutual

def indent (depth : Nat) : Json → List Char
  | .list (first :: rest) =>
    '[' :: (newLine (depth + 1) ++ indent (depth + 1) first ++ indentItems depth rest)
  | .record ((key, value) :: rest) =>
    '\x7b' :: (newLine (depth + 1) ++ writeText key ++ ':' :: ' ' :: indent (depth + 1) value
      ++ indentMembers depth rest)
  | j => write j

def indentItems (depth : Nat) : List Json → List Char
  | [] => newLine depth ++ [']']
  | item :: rest =>
    ',' :: (newLine (depth + 1) ++ indent (depth + 1) item ++ indentItems depth rest)

def indentMembers (depth : Nat) : List (String × Json) → List Char
  | [] => newLine depth ++ ['\x7d']
  | (key, value) :: rest =>
    ',' :: (newLine (depth + 1) ++ writeText key ++ ':' :: ' ' :: indent (depth + 1) value
      ++ indentMembers depth rest)

end

def pretty (j : Json) : String := String.ofList (indent 0 j)

end Chronomata.Json
