import Chronomata.Text.Basic

-- Texts and keys in configuration notation. Every reader gives back what follows what it has read;
-- fuel is the number of characters.
namespace Chronomata.Toml

def isBlank (c : Char) : Bool := c = ' ' || c = '\t'

def isTextChar (c : Char) : Bool := c = '\t' || (0x20 ≤ c.toNat && c.toNat ≠ 0x7F)

def isKeyChar (c : Char) : Bool := c.isAlphanum || c = '_' || c = '-'

def dropBlanks (cs : List Char) : List Char := cs.dropWhile isBlank

def dropBreak? : List Char → Option (List Char)
  | '\n' :: rest | '\r' :: '\n' :: rest => some rest
  | _ => none

def dropGap : Nat → List Char → List Char
  | 0, cs => cs
  | fuel + 1, cs =>
    match dropBreak? (dropBlanks cs) with
    | some rest => dropGap fuel rest
    | none => dropBlanks cs

-- The rest of a line behind what it says: blanks, perhaps a comment, and the end of the line or of
-- the text.
def finishLine (cs : List Char) : Option (List Char) :=
  let rest := match dropBlanks cs with
    | '#' :: rest => rest.dropWhile isTextChar
    | rest => rest
  if rest.isEmpty then some [] else dropBreak? rest

def dropComments : Nat → List Char → List Char
  | 0, cs => cs
  | fuel + 1, cs =>
    match finishLine cs with
    | some rest => dropComments fuel rest
    | none => dropBlanks cs

def escaped? : Char → Option Char
  | 'b' => some '\x08'
  | 't' => some '\t'
  | 'n' => some '\n'
  | 'f' => some '\x0c'
  | 'r' => some '\r'
  | '"' => some '"'
  | '\\' => some '\\'
  | _ => none

def escapeWidth? : Char → Option Nat
  | 'u' => some 4
  | 'U' => some 8
  | _ => none

def readEscape : List Char → Option (Char × List Char)
  | [] => none
  | c :: rest => match escapeWidth? c with
    | none => (escaped? c).map (·, rest)
    | some width =>
      if (rest.take width).length < width then none
      else do
        let code ← Text.hexNat? (rest.take width)
        (Text.charOf? code).map (·, rest.drop width)

def dropEscapedBreak? (cs : List Char) : Option (List Char) :=
  (dropBreak? (dropBlanks cs)).map (dropGap cs.length)

-- A text on one line, up to its closing quote and past it. Only double quotes allow escapes.
def readLine (quote : Char) : Nat → List Char → Option (List Char × List Char)
  | fuel + 1, c :: rest =>
    if c = quote then some ([], rest)
    else do
      let (c, rest) ←
        if c = '\\' ∧ quote = '"' then readEscape rest
        else if isTextChar c then some (c, rest)
        else none
      let (text, rest) ← readLine quote fuel rest
      some (c :: text, rest)
  | _, _ => none

-- A text over several lines, up to its three closing quotes and past them. One or two quotes more
-- are part of the text, and so are shorter runs of quotes inside.
def readLines (quote : Char) : Nat → List Char → Option (List Char × List Char)
  | fuel + 1, cs =>
    let quotes := min (cs.takeWhile (· = quote)).length 5
    if 3 ≤ quotes then some (List.replicate (quotes - 3) quote, cs.drop quotes)
    else match cs with
      | [] => none
      | c :: rest =>
        match dropBreak? cs, if c = '\\' ∧ quote = '"' then dropEscapedBreak? rest else none with
        | some rest, _ => (readLines quote fuel rest).map fun found => ('\n' :: found.1, found.2)
        | none, some rest => readLines quote fuel rest
        | none, none => do
          let (c, rest) ←
            if c = '\\' ∧ quote = '"' then readEscape rest
            else if isTextChar c then some (c, rest)
            else none
          let (text, rest) ← readLines quote fuel rest
          some (c :: text, rest)
  | 0, _ => none

-- A text behind its first quote. An end of a line right behind three quotes does not count.
def readText (quote : Char) (cs : List Char) : Option (String × List Char) :=
  let found :=
    if cs.take 2 = [quote, quote] then
      let body := (dropBreak? (cs.drop 2)).getD (cs.drop 2)
      readLines quote (body.length + 1) body
    else readLine quote (cs.length + 1) cs
  found.map fun found => (String.ofList found.1, found.2)

def readKey : List Char → Option (String × List Char)
  | [] => none
  | c :: rest =>
    if c = '"' ∨ c = '\'' then
      (readLine c (rest.length + 1) rest).map fun found => (String.ofList found.1, found.2)
    else
      let key := (c :: rest).takeWhile isKeyChar
      if key.isEmpty then none else some (String.ofList key, (c :: rest).drop key.length)

def readPath : Nat → List Char → Option (List String × List Char)
  | 0, _ => none
  | fuel + 1, cs => do
    let (key, rest) ← readKey (dropBlanks cs)
    match dropBlanks rest with
    | '.' :: rest =>
      let (keys, rest) ← readPath fuel rest
      some (key :: keys, rest)
    | rest => some ([key], rest)

end Chronomata.Toml
