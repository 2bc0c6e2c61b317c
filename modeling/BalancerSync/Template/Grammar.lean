import BalancerSync.Peg.Machine

/-!
# The grammar of templates

Templates are text with tags in double braces.  This module lists the rules of
the grammar, in the order a syntax error names them, with their kinds and
patterns.  The parser in `Peg.Machine` runs it; `Template.Compile` turns the
resulting spans into syntax.

The main shapes:
- text runs up to the next `{{`; `\{{` writes braces literally;
- `{{name params hash}}` and `{{{...}}}` / `{{&...}}` output a value;
- `{{#helper ...}} ... {{else}} ... {{/helper}}` is a block, with `{{else helper ...}}`
  chains and `{{^}}` as a synonym of `{{else}}`;
- `{{{{raw}}}} ... {{{{/raw}}}}` keeps its body unparsed;
- `{{! ...}}` and `{{!-- ... --}}` are comments;
- `{{> name}}` and `{{#> name}} ... {{/name}}` use partials, `{{* ...}}` decorators;
  their blocks may also end with a bare `{{/}}`;
- a path may start with `./` or `this/` (the current place), then `@root/`, `@`, and
  `../` steps, before its names;
- a `~` just inside the braces trims the blanks on that side.
-/

namespace BalancerSync.Template

open BalancerSync.Peg

/-- The rules, in the order the grammar lists them. -/
inductive Rule where
  | endOfInput | whitespace | keywords | escape | rawText | rawBlockText
  | literal | nullLiteral | booleanLiteral | numberLiteral
  | jsonCharDoubleQuote | jsonCharSingleQuote | stringInnerDoubleQuote | stringInnerSingleQuote
  | stringLiteral | arrayLiteral | objectLiteral
  | symbolChar | partialSymbolChar | pathChar
  | identifier | partialIdentifier | reference | name | param | hash | blockParam
  | expLine | partialExpLine | subexpression | leadingTilde | trailingTilde
  | expression | htmlLegacy | htmlTriple | ampExpression | htmlExpression
  | decoratorExpression | partialExpression | invertTagItem | invertTag | invertChainTag
  | helperBlockStart | helperBlockEnd | helperBlock
  | decoratorBlockStart | decoratorBlockEnd | decoratorBlock
  | partialBlockStart | partialBlockEnd | partialBlock
  | rawBlockStart | rawBlockEnd | rawBlock
  | comment | compactComment | template | parameter | handlebars
  | pathId | pathRawId | pathSep | pathUp | pathKey | pathRoot | pathItem | pathLocal
  | pathCurrent | pathInline | path
deriving DecidableEq, Repr, Inhabited

namespace Rule

/-- Every rule, in listing order. -/
def all : List Rule :=
  [endOfInput, whitespace, keywords, escape, rawText, rawBlockText,
   literal, nullLiteral, booleanLiteral, numberLiteral,
   jsonCharDoubleQuote, jsonCharSingleQuote, stringInnerDoubleQuote, stringInnerSingleQuote,
   stringLiteral, arrayLiteral, objectLiteral,
   symbolChar, partialSymbolChar, pathChar,
   identifier, partialIdentifier, reference, name, param, hash, blockParam,
   expLine, partialExpLine, subexpression, leadingTilde, trailingTilde,
   expression, htmlLegacy, htmlTriple, ampExpression, htmlExpression,
   decoratorExpression, partialExpression, invertTagItem, invertTag, invertChainTag,
   helperBlockStart, helperBlockEnd, helperBlock,
   decoratorBlockStart, decoratorBlockEnd, decoratorBlock,
   partialBlockStart, partialBlockEnd, partialBlock,
   rawBlockStart, rawBlockEnd, rawBlock,
   comment, compactComment, template, parameter, handlebars,
   pathId, pathRawId, pathSep, pathUp, pathKey, pathRoot, pathItem, pathLocal,
   pathCurrent, pathInline, path]

instance : BEq Rule := ⟨fun a b => decide (a = b)⟩

/-- Position in the listing. -/
def rank (r : Rule) : Nat := all.idxOf r

/-- The name a syntax error uses for a rule. -/
def label : Rule → String
  | endOfInput => "EOI" | whitespace => "WHITESPACE" | keywords => "keywords"
  | escape => "escape" | rawText => "raw_text" | rawBlockText => "raw_block_text"
  | literal => "literal" | nullLiteral => "null_literal"
  | booleanLiteral => "boolean_literal" | numberLiteral => "number_literal"
  | jsonCharDoubleQuote => "json_char_double_quote"
  | jsonCharSingleQuote => "json_char_single_quote"
  | stringInnerDoubleQuote => "string_inner_double_quote"
  | stringInnerSingleQuote => "string_inner_single_quote"
  | stringLiteral => "string_literal" | arrayLiteral => "array_literal"
  | objectLiteral => "object_literal" | symbolChar => "symbol_char"
  | partialSymbolChar => "partial_symbol_char" | pathChar => "path_char"
  | identifier => "identifier" | partialIdentifier => "partial_identifier"
  | reference => "reference" | name => "name" | param => "helper_parameter" | hash => "hash"
  | blockParam => "block_param" | expLine => "exp_line" | partialExpLine => "partial_exp_line"
  | subexpression => "subexpression"
  | leadingTilde => "leading_tilde_to_omit_whitespace"
  | trailingTilde => "trailing_tilde_to_omit_whitespace"
  | expression => "expression"
  | htmlLegacy => "html_expression_triple_bracket_legacy"
  | htmlTriple => "html_expression_triple_bracket"
  | ampExpression => "amp_expression" | htmlExpression => "html_expression"
  | decoratorExpression => "decorator_expression" | partialExpression => "partial_expression"
  | invertTagItem => "invert_tag_item" | invertTag => "invert_tag"
  | invertChainTag => "invert_chain_tag"
  | helperBlockStart => "helper_block_start" | helperBlockEnd => "helper_block_end"
  | helperBlock => "helper_block"
  | decoratorBlockStart => "decorator_block_start" | decoratorBlockEnd => "decorator_block_end"
  | decoratorBlock => "decorator_block"
  | partialBlockStart => "partial_block_start" | partialBlockEnd => "partial_block_end"
  | partialBlock => "partial_block"
  | rawBlockStart => "raw_block_start" | rawBlockEnd => "raw_block_end" | rawBlock => "raw_block"
  | comment => "hbs_comment" | compactComment => "hbs_comment_compact"
  | template => "template" | parameter => "parameter" | handlebars => "handlebars"
  | pathId => "path_id" | pathRawId => "path_raw_id" | pathSep => "path_sep"
  | pathUp => "path_up" | pathKey => "path_key" | pathRoot => "path_root"
  | pathItem => "path_item" | pathLocal => "path_local" | pathCurrent => "path_current"
  | pathInline => "path_inline"
  | path => "path"

/-- How each rule treats blanks and nested rules. -/
def kind : Rule → Kind
  | whitespace | symbolChar | partialSymbolChar | pathChar | name | expLine | partialExpLine
  | htmlLegacy | htmlTriple | ampExpression | helperBlock | decoratorBlock | partialBlock
  | rawBlock | parameter | handlebars | pathSep | pathKey | pathItem | pathCurrent => .silent
  | keywords | escape | nullLiteral | booleanLiteral | numberLiteral
  | stringInnerDoubleQuote | stringInnerSingleQuote | identifier | partialIdentifier
  | pathId => .atomic
  | rawText | rawBlockText | stringLiteral | reference | comment | compactComment
  | pathInline => .compound
  | _ => .normal

end Rule

/-- Shorthands for writing the patterns below. -/
private abbrev P := Pattern Rule

private def lit (s : String) : P := Pattern.lit s
private def call (r : Rule) : P := .rule r
private def opt (p : P) : P := .optional p
private def many (p : P) : P := .many p
private def some1 (p : P) : P := Pattern.oneOrMore p
private def seqs (ps : List P) : P := Pattern.seqAll ps
private def alts (ps : List P) : P := Pattern.anyOf ps

/-- Letters and digits of ASCII. -/
private def asciiAlphanumeric : P :=
  alts [.range 'a' 'z', .range 'A' 'Z', .range '0' '9']

/-- Every character beyond ASCII. -/
private def beyondAscii : P := .range (Char.ofNat 0x80) (Char.ofNat 0x10FFFF)

/-- Characters of names: ASCII letters and digits, `-`, `_`, `$`, `:`, and all non-ASCII. -/
private def symbolChars : P :=
  alts [asciiAlphanumeric, lit "-", lit "_", lit "$", lit ":", beyondAscii]

/-- Characters of partial names: as `symbolChars` without `$` and `:`, plus `/`, `.`
and `@` (so `@partial-block` is a partial name). -/
private def partialSymbolChars : P :=
  alts [asciiAlphanumeric, lit "-", lit "_", beyondAscii, lit "/", lit ".", lit "@"]

private def digit : P := .range '0' '9'
private def hexDigit : P := alts [.range '0' '9', .range 'a' 'f', .range 'A' 'F']

/-- A character of a quoted string whose quote is `q`. -/
private def quotedChar (q : String) : P :=
  alts [
    seqs [.notAhead (alts [lit q, lit "\\"]), .any],
    seqs [lit "\\", alts [lit q, lit "\\", lit "/", lit "b", lit "f", lit "n", lit "r", lit "t"]],
    seqs [lit "\\", seqs [lit "u", Pattern.times hexDigit 4]]]

/-- An expression body: a helper with arguments, or a single name. -/
private def callOrName : P :=
  alts [seqs [call .identifier, some1 (alts [call .hash, call .param])], call .name]

/-- The optional trimming marks. -/
private def lead : P := opt (call .leadingTilde)
private def trail : P := opt (call .trailingTilde)

/-- The pattern of each rule. -/
def body : Rule → P
  | .endOfInput => .endOfInput
  | .whitespace => alts [lit " ", lit "\t", lit "\n", lit "\r"]
  | .keywords => alts [lit "as", lit "else"]
  | .escape =>
    alts [seqs [lit "\\", lit "\x7b\x7b", opt (lit "\x7b\x7b")],
          seqs [lit "\\", some1 (lit "\\"), .ahead (lit "\x7b\x7b")]]
  | .rawText => some1 (alts [call .escape, seqs [.notAhead (lit "\x7b\x7b"), .any]])
  | .rawBlockText => many (alts [call .escape, seqs [.notAhead (lit "\x7b\x7b\x7b\x7b"), .any]])
  | .literal =>
    alts [call .stringLiteral, call .arrayLiteral, call .objectLiteral, call .numberLiteral,
          call .nullLiteral, call .booleanLiteral]
  | .nullLiteral => seqs [lit "null", .notAhead (call .symbolChar)]
  | .booleanLiteral => seqs [alts [lit "true", lit "false"], .notAhead (call .symbolChar)]
  | .numberLiteral =>
    seqs [opt (lit "-"), some1 digit, opt (lit "."), many digit,
          opt (seqs [lit "E", opt (lit "-"), some1 digit]), .notAhead (call .symbolChar)]
  | .jsonCharDoubleQuote => quotedChar "\""
  | .jsonCharSingleQuote => quotedChar "'"
  | .stringInnerDoubleQuote => many (call .jsonCharDoubleQuote)
  | .stringInnerSingleQuote => many (call .jsonCharSingleQuote)
  | .stringLiteral =>
    alts [seqs [lit "\"", call .stringInnerDoubleQuote, lit "\""],
          seqs [lit "'", call .stringInnerSingleQuote, lit "'"]]
  | .arrayLiteral =>
    seqs [lit "[", opt (call .literal), many (seqs [lit ",", call .literal]), lit "]"]
  | .objectLiteral =>
    seqs [lit "\x7b", opt (seqs [call .stringLiteral, lit ":", call .literal]),
          many (seqs [lit ",", call .stringLiteral, lit ":", call .literal]), lit "\x7d"]
  | .symbolChar => symbolChars
  | .partialSymbolChar => partialSymbolChars
  | .pathChar => lit "/"
  | .identifier => some1 (call .symbolChar)
  | .partialIdentifier =>
    alts [some1 (call .partialSymbolChar),
          seqs [lit "[", some1 .any, lit "]"],
          seqs [lit "'", some1 (seqs [.notAhead (lit "'"), alts [lit "\\'", .any]]), lit "'"]]
  | .reference => call .pathInline
  | .name => alts [call .subexpression, call .reference]
  | .param =>
    seqs [.notAhead (seqs [call .keywords, .notAhead (call .symbolChar)]),
          alts [call .literal, call .reference, call .subexpression]]
  | .hash => seqs [call .identifier, lit "=", call .param]
  | .blockParam => seqs [lit "as", lit "|", call .identifier, opt (call .identifier), lit "|"]
  | .expLine => seqs [call .identifier, many (alts [call .hash, call .param]), opt (call .blockParam)]
  | .partialExpLine =>
    seqs [alts [call .partialIdentifier, call .name], many (alts [call .hash, call .param])]
  | .subexpression =>
    seqs [lit "(", alts [seqs [call .identifier, some1 (alts [call .hash, call .param])],
                         call .reference], lit ")"]
  | .leadingTilde => lit "~"
  | .trailingTilde => lit "~"
  | .expression =>
    seqs [.notAhead (call .invertTag), .notAhead (call .invertChainTag),
          lit "\x7b\x7b", lead, callOrName, trail, lit "\x7d\x7d"]
  | .htmlLegacy => seqs [lit "\x7b\x7b\x7b", lead, callOrName, trail, lit "\x7d\x7d\x7d"]
  | .htmlTriple => seqs [lit "\x7b\x7b", lead, lit "\x7b", callOrName, lit "\x7d", trail, lit "\x7d\x7d"]
  | .ampExpression => seqs [lit "\x7b\x7b", lead, lit "&", call .name, trail, lit "\x7d\x7d"]
  | .htmlExpression => alts [call .htmlLegacy, call .htmlTriple, call .ampExpression]
  | .decoratorExpression => seqs [lit "\x7b\x7b", lead, lit "*", call .expLine, trail, lit "\x7d\x7d"]
  | .partialExpression => seqs [lit "\x7b\x7b", lead, lit ">", call .partialExpLine, trail, lit "\x7d\x7d"]
  | .invertTagItem => alts [lit "else", lit "^"]
  | .invertTag => seqs [lit "\x7b\x7b", lead, call .invertTagItem, trail, lit "\x7d\x7d"]
  | .invertChainTag =>
    seqs [lit "\x7b\x7b", lead, call .invertTagItem, call .expLine, trail, lit "\x7d\x7d"]
  | .helperBlockStart => seqs [lit "\x7b\x7b", lead, lit "#", call .expLine, trail, lit "\x7d\x7d"]
  | .helperBlockEnd => seqs [lit "\x7b\x7b", lead, lit "/", call .identifier, trail, lit "\x7d\x7d"]
  | .helperBlock =>
    seqs [call .helperBlockStart, call .template,
          many (seqs [call .invertChainTag, call .template]),
          opt (seqs [call .invertTag, call .template]), call .helperBlockEnd]
  | .decoratorBlockStart =>
    seqs [lit "\x7b\x7b", lead, lit "#", lit "*", call .expLine, trail, lit "\x7d\x7d"]
  | .decoratorBlockEnd =>
    seqs [lit "\x7b\x7b", lead, lit "/", opt (call .identifier), trail, lit "\x7d\x7d"]
  | .decoratorBlock => seqs [call .decoratorBlockStart, call .template, call .decoratorBlockEnd]
  | .partialBlockStart =>
    seqs [lit "\x7b\x7b", lead, lit "#", lit ">", call .partialExpLine, trail, lit "\x7d\x7d"]
  | .partialBlockEnd =>
    seqs [lit "\x7b\x7b", lead, lit "/", opt (call .partialIdentifier), trail, lit "\x7d\x7d"]
  | .partialBlock => seqs [call .partialBlockStart, call .template, call .partialBlockEnd]
  | .rawBlockStart => seqs [lit "\x7b\x7b\x7b\x7b", lead, call .expLine, trail, lit "\x7d\x7d\x7d\x7d"]
  | .rawBlockEnd => seqs [lit "\x7b\x7b\x7b\x7b", lead, lit "/", call .identifier, trail, lit "\x7d\x7d\x7d\x7d"]
  | .rawBlock => seqs [call .rawBlockStart, call .rawBlockText, call .rawBlockEnd]
  | .comment =>
    seqs [lit "\x7b\x7b!", lit "--", many (seqs [.notAhead (lit "--\x7d\x7d"), .any]), lit "--", lit "\x7d\x7d"]
  | .compactComment => seqs [lit "\x7b\x7b!", many (seqs [.notAhead (lit "\x7d\x7d"), .any]), lit "\x7d\x7d"]
  | .template =>
    many (alts [call .rawText, call .expression, call .htmlExpression, call .helperBlock,
                call .rawBlock, call .comment, call .compactComment, call .decoratorExpression,
                call .decoratorBlock, call .partialExpression, call .partialBlock])
  | .parameter => seqs [call .param, call .endOfInput]
  | .handlebars => seqs [call .template, call .endOfInput]
  | .pathId => some1 (call .symbolChar)
  | .pathRawId => many (seqs [.notAhead (lit "]"), .any])
  | .pathSep => alts [lit "/", lit "."]
  | .pathUp => lit ".."
  | .pathKey => seqs [lit "[", call .pathRawId, lit "]"]
  | .pathRoot => lit "@root"
  | .pathItem => alts [call .pathId, call .pathKey]
  | .pathLocal => lit "@"
  | .pathCurrent => alts [seqs [lit "this", call .pathSep], lit "./"]
  | .pathInline =>
    seqs [opt (call .pathCurrent), opt (seqs [call .pathRoot, call .pathSep]), opt (call .pathLocal),
          many (seqs [call .pathUp, call .pathSep]), call .pathItem,
          many (seqs [call .pathSep, call .pathItem])]
  | .path => seqs [call .pathInline, call .endOfInput]

/-- Blanks between the items of a tag. -/
def isBlank (c : Char) : Bool := c == ' ' || c == '\t' || c == '\n' || c == '\r'

/-- The template grammar. -/
def grammar : Grammar Rule where
  kind := Rule.kind
  body := body
  blank := isBlank
  rank := Rule.rank
  label := Rule.label

end BalancerSync.Template
