import SchemaGraph.Source.Grammar.Function

/-! Items: structs, enumerations and modules, and the others as far as they have to be read. -/
namespace SchemaGraph.Source.Grammar

open Source.Parser

/-- The type of a field without a name, which may be a list of fields itself. -/
def unnamedType (g : Grammar) : Parser TypeForm := do
  let ts ← get
  if Ahead.isWord "struct" ts ||
      (Ahead.isWord "union" ts && Ahead.isGroup .brace (ts.drop 1)) then
    let _ ← anyIdent
    let _ ← g.fields
    return .other
  g.type true

def namedField (g : Grammar) : Parser Field := do
  let attributes ← outerAttributes g
  let _ ← visibility
  if ← optWord "_" then
    punct ":"
    return { attributes, name := "_", type := ← unnamedType g }
  let name ← ident
  punct ":"
  return { attributes, name, type := ← g.type true }

def tupleField (g : Grammar) : Parser Unit := do
  let _ ← outerAttributes g
  let _ ← visibility
  let _ ← g.type true

def namedFields (g : Grammar) : Parser (List Field) := group .brace (list (namedField g))

def tupleFields (g : Grammar) : Parser Unit := do
  let _ ← group .paren (list (tupleField g))

/-- A struct, after what may stand before its keyword. -/
def structItem (g : Grammar) (attributes : List Attribute) : Parser StructItem := do
  let _ ← visibility
  word "struct"
  let name ← ident
  let params ← generics g
  let conditional ← ahead (Ahead.isWord "where")
  optWhere g
  if !conditional && (← ahead (Ahead.isGroup .paren)) then
    tupleFields g
    optWhere g
    punct ";"
    return { attributes, name, params, fields := .unnamed }
  if ← ahead (Ahead.isGroup .brace) then
    return { attributes, name, params, fields := .named (← namedFields g) }
  punct ";"
  return { attributes, name, params, fields := .unit }

def variant (g : Grammar) : Parser Variant := do
  let attributes ← outerAttributes g
  let _ ← visibility
  let name ← ident
  let fields ←
    if ← ahead (Ahead.isGroup .brace) then Fields.named <$> namedFields g
    else if ← ahead (Ahead.isGroup .paren) then do
      tupleFields g
      pure .unnamed
    else pure .unit
  if ← optPunct "=" then let _ ← g.expr true
  return { attributes, name, fields }

/-- An enumeration, after its attributes. -/
def enumItem (g : Grammar) (attributes : List Attribute) : Parser EnumItem := do
  let _ ← visibility
  word "enum"
  let name ← ident
  let _ ← generics g
  optWhere g
  return { attributes, name, variants := ← group .brace (list (variant g)) }

/-- A module, after its attributes. -/
def moduleItem (g : Grammar) : Parser Item := do
  let _ ← visibility
  let _ ← optWord "unsafe"
  word "mod"
  let name ← if ← ahead (Ahead.isWord "try") then anyIdent else ident
  if ← optPunct ";" then return .module name .none
  let content ← group .brace (do innerAttributes g; untilEnd g.item)
  return .module name (some content)

/-- What an import names; whether it may start at the root. -/
def importTreeWith (g : Grammar) (allowRoot : Bool) : Parser Unit := do
  let startsName (ts : List Token) : Bool :=
    Ahead.isIdent ts || Ahead.isOneOf ["self", "super", "crate", "try"] ts
  if ← ahead startsName then
    let _ ← anyIdent
    if ← optPunct "::" then g.importTree false
    else if ← optWord "as" then
      if !(← optWord "_") then let _ ← ident
  else if ← optPunct "*" then return
  else
    let _ ← group .brace (list do
      let atRoot ← if allowRoot then optPunct "::" else pure false
      g.importTree (allowRoot && !atRoot))

def importItem (g : Grammar) : Parser Unit := do
  let _ ← visibility
  word "use"
  let atRoot ← optPunct "::"
  g.importTree !atRoot
  punct ";"

def staticItem (g : Grammar) : Parser Unit := do
  let _ ← visibility
  word "static"
  let _ ← optWord "mut"
  let _ ← ident
  let typed ← optPunct ":"
  if typed then let _ ← g.type true
  if !typed || (← ahead (Ahead.isPunct "=")) then
    punct "="
    let _ ← g.expr true
  punct ";"

/-- Bounds of a trait up to a place where they end. -/
def traitBounds (g : Grammar) (ends : List Token → Bool) : Parser Unit := do
  boundsUntil g ends
  guard (← ahead ends)

def traitMember (g : Grammar) : Parser Unit := do
  let _ ← outerAttributes g
  let visible ← visibility
  let isDefault ← optWord "default"
  let ts ← get
  if startsFunction false ts then
    signature g false
    bodyOrEnd g
  else if Ahead.isWord "const" ts then
    word "const"
    constantDefinition g
  else if Ahead.isWord "type" ts then typeAlias g false true
  else
    guard (!visible && !isDefault && startsMacroPath ts)
    macroCall false

/-- A trait, after its attributes: with items, or as a name for bounds. -/
def traitItem (g : Grammar) : Parser Unit := do
  let _ ← visibility
  let isUnsafe ← optWord "unsafe"
  let isAuto ← optWord "auto"
  word "trait"
  let _ ← ident
  let _ ← generics g
  if !isUnsafe && !isAuto && (← ahead (Ahead.isPunct "=")) then
    punct "="
    traitBounds g (fun ts => Ahead.isWord "where" ts || Ahead.isPunct ";" ts)
    optWhere g
    punct ";"
  else
    if ← optPunct ":" then
      traitBounds g (fun ts => Ahead.isWord "where" ts || Ahead.isGroup .brace ts)
    optWhere g
    group .brace do
      innerAttributes g
      let _ ← untilEnd (traitMember g)

/-- Whether a word marks a default, and does not name a macro. -/
def startsDefault (ts : List Token) : Bool :=
  Ahead.isWord "default" ts && !Ahead.isPunct "!" (ts.drop 1)

def implMember (g : Grammar) : Parser Unit := do
  let _ ← outerAttributes g
  let visible ← visibility
  let isDefault ← if ← ahead startsDefault then optWord "default" else pure false
  let ts ← get
  if startsFunction false ts then
    signature g false
    bodyOrEnd g
  else if Ahead.isWord "const" ts then
    word "const"
    constantDefinition g
  else if Ahead.isWord "type" ts then typeAlias g false true
  else
    guard (!visible && !isDefault && startsMacroPath ts)
    macroCall false

/-- The implementation of a type, after its attributes. -/
def implItem (g : Grammar) : Parser Unit := do
  let _ ← visibility
  let _ ← optWord "default"
  let _ ← optWord "unsafe"
  word "impl"
  if ← ahead startsParams then let _ ← generics g
  let constAhead ← ahead (fun ts =>
    Ahead.isWord "const" ts || (Ahead.isPunct "?" ts && Ahead.isWord "const" (ts.drop 1)))
  if constAhead then
    let _ ← optPunct "?"
    word "const"
  if (← ahead (Ahead.isPunct "!")) && !(← second (Ahead.isGroup .brace)) then punct "!"
  let _ ← g.type true
  if ← optWord "for" then let _ ← g.type true
  optWhere g
  group .brace do
    innerAttributes g
    let _ ← untilEnd (implMember g)

/-- A declaration of something that another language defines. -/
def foreignMember (g : Grammar) : Parser Unit := do
  let _ ← outerAttributes g
  let visible ← visibility
  let ts ← get
  let next := ts.drop 1
  if startsFunction true ts then
    signature g true
    bodyOrEnd g
  else if Ahead.isWord "static" ts ||
      (Ahead.isOneOf ["unsafe", "safe"] ts && Ahead.isWord "static" next) then
    if !(← optWord "unsafe") then let _ ← optWord "safe"
    word "static"
    let _ ← optWord "mut"
    let _ ← ident
    punct ":"
    let _ ← g.type true
    if ← optPunct "=" then let _ ← g.expr true
    punct ";"
  else if Ahead.isWord "type" ts then typeAlias g true true
  else
    guard (!visible && startsMacroPath ts)
    macroCall false

/-- Declarations of what another language defines. -/
def foreignItem (g : Grammar) : Parser Unit := do
  let _ ← optWord "unsafe"
  guard (← ahead (Ahead.isWord "extern"))
  optInterface
  group .brace do
    innerAttributes g
    let _ ← untilEnd (foreignMember g)

def dependencyItem : Parser Unit := do
  let _ ← visibility
  word "extern"
  word "crate"
  if !(← optWord "self") then let _ ← ident
  if ← optWord "as" then
    if !(← optWord "_") then let _ ← ident
  punct ";"

def unionItem (g : Grammar) : Parser Unit := do
  let _ ← visibility
  word "union"
  let _ ← ident
  let _ ← generics g
  optWhere g
  let _ ← namedFields g

/-- The definition of a macro by its own keyword. -/
def macroItem : Parser Unit := do
  let _ ← visibility
  word "macro"
  let _ ← ident
  if ← ahead (Ahead.isGroup .paren) then let _ ← anyGroup
  guard ((← anyGroup) = .brace)

/-- An item other than a struct, an enumeration or a module; `ts` are the tokens after who may see it. -/
def otherItem (g : Grammar) (visible : Bool) (ts : List Token) : Parser Unit := do
  let next := ts.drop 1
  if startsFunction false ts then
    let _ ← visibility
    signature g false
    bodyOrEnd g
  else if Ahead.isWord "extern" ts then
    if Ahead.isWord "crate" next then dependencyItem else foreignItem g
  else if Ahead.isWord "use" ts then importItem g
  else if Ahead.isWord "static" ts then staticItem g
  else if Ahead.isWord "const" ts then
    let _ ← visibility
    word "const"
    constantDefinition g
  else if Ahead.isWord "unsafe" ts && Ahead.isWord "extern" next then foreignItem g
  else if Ahead.isWord "unsafe" ts && Ahead.isWord "impl" next then implItem g
  else if Ahead.isWord "unsafe" ts || Ahead.isWord "trait" ts ||
      (Ahead.isWord "auto" ts && Ahead.isWord "trait" next) then traitItem g
  else if Ahead.isWord "type" ts then
    let _ ← visibility
    typeAlias g true false
  else if Ahead.isWord "union" ts && Ahead.isIdent next then unionItem g
  else if Ahead.isWord "impl" ts || startsDefault ts then implItem g
  else if Ahead.isWord "macro" ts then macroItem
  else
    guard (!visible && startsMacroPath ts)
    macroCall true

def itemWith (g : Grammar) : Parser Item := do
  let attributes ← outerAttributes g
  let before ← get
  let visible ← visibility
  let ts ← get
  set before
  let moduleAhead (ts : List Token) : Bool :=
    Ahead.isWord "mod" ts || (Ahead.isWord "unsafe" ts && Ahead.isWord "mod" (ts.drop 1))
  if startsFunction false ts then
    otherItem g visible ts
    return .other
  if moduleAhead ts then moduleItem g
  else if Ahead.isWord "struct" ts then Item.struct <$> structItem g attributes
  else if Ahead.isWord "enum" ts then Item.enum <$> enumItem g attributes
  else
    otherItem g visible ts
    return .other

end SchemaGraph.Source.Grammar
