/-!
# Kinds of syntax tree nodes

* `Keyword` — the keywords of PL/SQL that the tree tells apart, with their spelling in capitals.
* `Kind` — what a node of the tree is: a construct, a token class or a particular keyword.

A kind is shown by its name, a keyword by its spelling. The names, in the order of `Keyword.all` and
`Kind.plain`, are those that data files use.
-/

namespace PlsqlAudit

/-- A keyword of PL/SQL. -/
inductive Keyword where
  | create
  | orWord
  | replaceWord
  | package
  | body
  | procedure
  | functionWord
  | returnWord
  | isWord
  | asWord
  | beginWord
  | endWord
  | nullWord
  | inWord
  | outWord
  | nocopy
  | defaultWord
  | typeWord
  | table
  | ofWord
  | index
  | byWord
  | varray
  | record
  | notWord
  | rowtype
  | char
  | nchar
  | varchar
  | varchar2
  | nvarchar2
  | clob
  | nclob
  | number
  | integer
  | plsInteger
  | date
  | timestamp
  | boolean
  deriving DecidableEq, Repr

namespace Keyword

/-- All keywords. -/
def all : List Keyword :=
  [.create, .orWord, .replaceWord, .package, .body, .procedure, .functionWord, .returnWord,
   .isWord, .asWord, .beginWord, .endWord, .nullWord, .inWord, .outWord, .nocopy,
   .defaultWord, .typeWord, .table, .ofWord, .index, .byWord, .varray, .record, .notWord,
   .rowtype, .char, .nchar, .varchar, .varchar2, .nvarchar2, .clob, .nclob, .number, .integer,
   .plsInteger, .date, .timestamp, .boolean]

/-- The keyword as data files name it. -/
def name : Keyword → String
  | create => "Create"
  | orWord => "Or"
  | replaceWord => "Replace"
  | package => "Package"
  | body => "Body"
  | procedure => "Procedure"
  | functionWord => "Function"
  | returnWord => "Return"
  | isWord => "Is"
  | asWord => "As"
  | beginWord => "Begin"
  | endWord => "End"
  | nullWord => "Null"
  | inWord => "In"
  | outWord => "Out"
  | nocopy => "Nocopy"
  | defaultWord => "Default"
  | typeWord => "Type"
  | table => "Table"
  | ofWord => "Of"
  | index => "Index"
  | byWord => "By"
  | varray => "Varray"
  | record => "Record"
  | notWord => "Not"
  | rowtype => "Rowtype"
  | char => "Char"
  | nchar => "Nchar"
  | varchar => "Varchar"
  | varchar2 => "Varchar2"
  | nvarchar2 => "Nvarchar2"
  | clob => "Clob"
  | nclob => "Nclob"
  | number => "Number"
  | integer => "Integer"
  | plsInteger => "PlsInteger"
  | date => "Date"
  | timestamp => "Timestamp"
  | boolean => "Boolean"

/-- The keyword as PL/SQL text spells it, in capitals. -/
def spelling : Keyword → String
  | create => "CREATE"
  | orWord => "OR"
  | replaceWord => "REPLACE"
  | package => "PACKAGE"
  | body => "BODY"
  | procedure => "PROCEDURE"
  | functionWord => "FUNCTION"
  | returnWord => "RETURN"
  | isWord => "IS"
  | asWord => "AS"
  | beginWord => "BEGIN"
  | endWord => "END"
  | nullWord => "NULL"
  | inWord => "IN"
  | outWord => "OUT"
  | nocopy => "NOCOPY"
  | defaultWord => "DEFAULT"
  | typeWord => "TYPE"
  | table => "TABLE"
  | ofWord => "OF"
  | index => "INDEX"
  | byWord => "BY"
  | varray => "VARRAY"
  | record => "RECORD"
  | notWord => "NOT"
  | rowtype => "ROWTYPE"
  | char => "CHAR"
  | nchar => "NCHAR"
  | varchar => "VARCHAR"
  | varchar2 => "VARCHAR2"
  | nvarchar2 => "NVARCHAR2"
  | clob => "CLOB"
  | nclob => "NCLOB"
  | number => "NUMBER"
  | integer => "INTEGER"
  | plsInteger => "PLS_INTEGER"
  | date => "DATE"
  | timestamp => "TIMESTAMP"
  | boolean => "BOOLEAN"

/-- The keyword of a given name. -/
def ofName? (s : String) : Option Keyword := all.find? fun k => k.name = s

theorem ofName?_name (k : Keyword) : ofName? k.name = some k := by
  cases k <;> rfl

end Keyword

/-- What a node of the tree is. -/
inductive Kind where
  | compilationUnit
  | createPackage
  | createProcedure
  | createFunction
  | procedureDeclaration
  | functionDeclaration
  | parameterDeclaration
  | datatype
  | characterDatatype
  | numericDatatype
  | dateDatatype
  | lobDatatype
  | booleanDatatype
  | customDatatype
  | typeDeclaration
  | tableOfDeclaration
  | varrayDeclaration
  | recordDeclaration
  | recordFieldDeclaration
  | defaultValue
  | returnClause
  | identifier
  | literal
  | punctuator
  | keyword (word : Keyword)
  deriving DecidableEq, Repr

namespace Kind

/-- The kinds other than keywords. -/
def plain : List Kind :=
  [.compilationUnit, .createPackage, .createProcedure, .createFunction, .procedureDeclaration,
   .functionDeclaration, .parameterDeclaration, .datatype, .characterDatatype,
   .numericDatatype, .dateDatatype, .lobDatatype, .booleanDatatype, .customDatatype,
   .typeDeclaration, .tableOfDeclaration, .varrayDeclaration, .recordDeclaration,
   .recordFieldDeclaration, .defaultValue, .returnClause, .identifier, .literal, .punctuator]

/-- The kind as data files name it; which keyword it is stands apart from the name. -/
def name : Kind → String
  | compilationUnit => "CompilationUnit"
  | createPackage => "CreatePackage"
  | createProcedure => "CreateProcedure"
  | createFunction => "CreateFunction"
  | procedureDeclaration => "ProcedureDeclaration"
  | functionDeclaration => "FunctionDeclaration"
  | parameterDeclaration => "ParameterDeclaration"
  | datatype => "Datatype"
  | characterDatatype => "CharacterDatatype"
  | numericDatatype => "NumericDatatype"
  | dateDatatype => "DateDatatype"
  | lobDatatype => "LobDatatype"
  | booleanDatatype => "BooleanDatatype"
  | customDatatype => "CustomDatatype"
  | typeDeclaration => "TypeDeclaration"
  | tableOfDeclaration => "TableOfDeclaration"
  | varrayDeclaration => "VarrayDeclaration"
  | recordDeclaration => "RecordDeclaration"
  | recordFieldDeclaration => "RecordFieldDeclaration"
  | defaultValue => "DefaultValue"
  | returnClause => "ReturnClause"
  | identifier => "Identifier"
  | literal => "Literal"
  | punctuator => "Punctuator"
  | keyword _ => "Keyword"

/-- The names that data files may use. -/
def names : List String := plain.map name ++ ["Keyword"]

/-- The kind as people read it: its name, or the spelling of a keyword. -/
def display : Kind → String
  | keyword word => word.spelling
  | k => k.name

end Kind

end PlsqlAudit
