import Literate.Dictionary
import Literate.Text.Basic

/-!
# Languages

For each language the suffix of its files and the way its comments are written.
Settings may override both tables.
-/

namespace Literate

/-- How a comment is written: what goes before it and what goes after it. -/
structure CommentStyle where
  /-- What goes before a comment. -/
  opening : Text
  /-- What goes after a comment. -/
  closing : Text := []
deriving DecidableEq, Inhabited

namespace Language

/-- The suffixes of the languages known from the start. -/
def suffixes : Dictionary Text Text :=
  let table : List (String × String) :=
    [("python", "py"), ("sh", "sh"), ("bash", "sh"), ("shell", "sh"), ("zsh", "zsh"),
     ("emacs-lisp", "el"), ("elisp", "el"), ("lisp", "lisp"), ("scheme", "scm"),
     ("clojure", "clj"), ("c", "c"), ("cpp", "cpp"), ("C++", "cpp"), ("java", "java"),
     ("js", "js"), ("javascript", "js"), ("typescript", "ts"), ("ruby", "rb"), ("perl", "pl"),
     ("rust", "rs"), ("go", "go"), ("haskell", "hs"), ("ocaml", "ml"), ("lua", "lua"),
     ("R", "R"), ("julia", "jl"), ("sql", "sql"), ("yaml", "yml"), ("conf", "conf"),
     ("css", "css"), ("html", "html"), ("latex", "tex"), ("makefile", "mk")]
  ⟨table.map fun entry => (entry.1.toList, entry.2.toList)⟩

/-- A comment after a hash sign. -/
def hash : CommentStyle := ⟨"# ", []⟩

/-- A comment after two slashes. -/
def slashes : CommentStyle := ⟨"// ", []⟩

/-- A comment between slashes and stars. -/
def starred : CommentStyle := ⟨"/* ", " */"⟩

/-- A comment after two semicolons. -/
def semicolons : CommentStyle := ⟨";; ", []⟩

/-- A comment after two dashes. -/
def dashes : CommentStyle := ⟨"-- ", []⟩

/-- The comment styles of the languages known from the start. -/
def commentStyles : Dictionary Text CommentStyle :=
  let table : List (List String × CommentStyle) :=
    [(["python", "sh", "bash", "shell", "zsh", "ruby", "perl", "R", "julia", "yaml", "conf",
       "makefile"], hash),
     (["emacs-lisp", "elisp", "lisp", "scheme", "clojure"], semicolons),
     (["c", "css"], starred),
     (["cpp", "C++", "java", "js", "javascript", "typescript", "rust", "go"], slashes),
     (["haskell", "lua", "sql"], dashes),
     (["ocaml"], ⟨"(* ", " *)"⟩),
     (["html"], ⟨"<!-- ", " -->"⟩),
     (["latex"], ⟨"% ", []⟩)]
  ⟨table.flatMap fun entry => entry.1.map fun language => (language.toList, entry.2)⟩

/-- The suffixes with others on top, whose leading dots are dropped. -/
def suffixesWith (overrides : Dictionary Text Text) : Dictionary Text Text :=
  suffixes.update ⟨overrides.entries.map fun entry => (entry.1, entry.2.dropWhile (· == '.'))⟩

/-- The comment styles with others on top. -/
def commentStylesWith (overrides : Dictionary Text CommentStyle) : Dictionary Text CommentStyle :=
  commentStyles.update overrides

/-- The suffix of a language, its own name when the table has none. -/
def suffixIn (table : Dictionary Text Text) (language : Text) : Text :=
  match table.get? language with
  | some (c :: suffix) => c :: suffix
  | _ => language

/-- The comment style of a language, the hash sign when the table has none. -/
def commentStyleIn (table : Dictionary Text CommentStyle) (language : Text) : CommentStyle :=
  (table.get? language).getD hash

end Language
end Literate
