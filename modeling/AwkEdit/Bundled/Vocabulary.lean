/-!
# The vocabulary of AWK

The names that AWK and its extensions give a meaning, the tokens that are operators, brackets and delimiters, and the node types of
the grammar.
-/

namespace AwkEdit.Vocabulary

/-- The words of directives. -/
def directives : List String :=
  ["@include", "@load", "@namespace"]

/-- The reserved words. -/
def words : List String :=
  ["BEGIN", "END", "BEGINFILE", "ENDFILE", "function", "func", "if", "else", "while", "do", "for", "in", "break",
    "continue", "next", "nextfile", "exit", "return", "switch", "case", "default", "delete", "getline", "print", "printf"]

/-- The reserved words, those of directives among them. -/
def keywords : List String := words ++ directives

/-- The functions that come with the language. -/
def builtinFunctions : List String :=
  ["and", "asort", "asorti", "atan2", "bindtextdomain", "close", "compl", "cos", "dcgettext", "dcngettext", "exp",
    "fflush", "gensub", "gsub", "index", "int", "isarray", "length", "log", "lshift", "match", "mkbool", "mktime", "or",
    "patsplit", "rand", "rshift", "sin", "split", "sprintf", "sqrt", "srand", "strftime", "strtonum", "sub", "substr",
    "system", "systime", "tolower", "toupper", "typeof", "xor"]

/-- The variables that the language sets or reads. -/
def builtinVariables : List String :=
  ["ARGC", "ARGIND", "ARGV", "BINMODE", "CONVFMT", "ENVIRON", "ERRNO", "FIELDWIDTHS", "FILENAME", "FNR", "FPAT", "FS",
    "FUNCTAB", "IGNORECASE", "LINT", "NF", "NR", "OFMT", "OFS", "ORS", "PREC", "PROCINFO", "RLENGTH", "ROUNDMODE", "RS",
    "RSTART", "RT", "SUBSEP", "SYMTAB", "TEXTDOMAIN"]

/-- The operators. -/
def operators : List String :=
  ["=", "+=", "-=", "*=", "/=", "%=", "^=", "**=", "||", "&&", "!", "==", "!=", "<", "<=", ">", ">=", ">>", "~", "!~", "+",
    "-", "*", "/", "%", "^", "**", "++", "--", "?", ":", "|", "|&", "$"]

/-- The brackets. -/
def brackets : List String :=
  ["(", ")", "[", "]", "\x7b", "\x7d"]

/-- The tokens that end or separate. -/
def delimiters : List String :=
  [";", ","]

/-- The node types of statements that control others, and of their parts. -/
def controlStatements : List String :=
  ["if_statement", "else_clause", "while_statement", "do_while_statement", "for_statement", "for_in_statement",
    "switch_statement", "switch_body", "switch_case"]

/-- The node types of everything else that has a structure or a text of its own. -/
def structures : List String :=
  ["program", "rule", "pattern", "range_pattern", "block", "comment", "string", "escape_sequence", "regex",
    "regex_pattern", "regex_flags", "number", "identifier", "namespace", "ns_qualified_name", "field_ref", "array_ref",
    "grouping", "func_def", "param_list", "func_call", "indirect_func_call", "args", "exp_list", "assignment_exp",
    "binary_exp", "unary_exp", "update_exp", "ternary_exp", "string_concat", "in_exp", "getline_input", "getline_file",
    "print_statement", "printf_statement", "redirected_io_statement", "piped_io_statement", "piped_io_exp",
    "output_redirection", "break_statement", "continue_statement", "next_statement", "nextfile_statement",
    "exit_statement", "return_statement", "delete_statement", "directive", "ERROR"]

/-- The node types of the grammar. -/
def nodeTypes : List String := structures ++ controlStatements ++ keywords ++ operators ++ brackets ++ delimiters

end AwkEdit.Vocabulary
