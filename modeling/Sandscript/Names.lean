/-!
# Guarded names

Which names a script may neither call nor reach.  A name is refused when it is listed here or is a *dunder* name:
longer than four bytes, with two underscores at either end.
-/

namespace Sandscript.Names

/-- Functions that no script may call. -/
def forbiddenCalls : List String :=
  ["eval", "exec", "compile", "Fn", "call", "curry", "__import__", "globals", "locals", "vars", "dir", "getattr",
   "setattr", "hasattr", "delattr", "type_of", "is_def_var", "is_def_fn", "is_shared", "get_fn_metadata_list", "type",
   "super", "object", "classmethod", "staticmethod", "memoryview", "open", "read_file", "write_file", "getenv", "env",
   "system", "exit", "quit", "sleep", "input", "breakpoint", "help"]

/-- Functions over arrays that also take their callback by name. -/
def callbackFunctions : List String :=
  ["map", "filter", "reduce", "reduce_rev", "some", "all", "find", "find_map", "index_of", "retain", "drain", "sort",
   "dedup", "for_each"]

/-- Properties that no script may reach. -/
def forbiddenAttributes : List String :=
  ["__code__", "__globals__", "__closure__", "__builtins__", "__class__", "__bases__", "__base__", "__subclasses__",
   "__mro__", "__dict__", "__func__", "__self__", "__module__", "__getattribute__", "mro", "func_code", "func_globals",
   "gi_frame", "gi_code", "cr_frame", "cr_code", "ag_frame", "f_globals", "f_locals", "f_builtins", "f_back",
   "tb_frame", "co_code"]

/-- Words that the restricted backend takes out of the language. -/
def disabledKeywords : List String :=
  ["import", "export", "eval", "Fn", "call", "curry", "is_def_var", "is_def_fn", "is_shared", "type_of"]

def isDunder (name : String) : Bool :=
  4 < name.utf8ByteSize && ['_', '_'].isPrefixOf name.toList && ['_', '_'].isSuffixOf name.toList

def isForbiddenCall (name : String) : Bool := forbiddenCalls.contains name || isDunder name

def isForbiddenAttribute (name : String) : Bool := forbiddenAttributes.contains name || isDunder name

end Sandscript.Names
