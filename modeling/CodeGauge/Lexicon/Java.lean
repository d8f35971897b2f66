import CodeGauge.Lexicon.Basic

/-!
The spellings of Java.
-/
namespace CodeGauge.Lexicon

open Pattern

def java : Lexicon where
  language := "java"
  loopPattern :=
    anyOf
      [border ++ anyWord ["for", "while"] ++ blanks ++ "(",
        border ++ "do" ++ blanks ++ "\x7b",
        ".foreach" ++ blanks ++ "("]
  iterationCalls := ["forEach"]
  queryMarkers :=
    ["query.execute", "statement.execute", "jdbctemplate.query", "entitymanager.find("]
  chainRequired := [".stream()"]
  chainPairs := [[".filter(", ".map("], [".map(", ".collect("]]
  chainOps := [".filter(", ".map(", ".sorted"]
  chainMinOps := 2
  lazyMarkers := [".parallelstream()"]
  threadStart := [["thread(", ".start()"]]
  threadStop := [".join(", ".interrupt("]
  uiMarkers := ["invokelater", "invokeandwait", "runwriteaction", "actionperformed"]
  uiNames := ["actionPerformed", "run"]
  blockingMarkers :=
    ["thread.sleep", "inputstream.read", "outputstream.write", "socket.", "httpclient",
      "files.read", "files.write"]
  collectionAllocation :=
    ["new" ++ many1 isBlank ++
      anyWord
        ["arraylist", "hashmap", "hashset", "linkedhashmap", "linkedlist", "arraydeque",
          "vector"] ++
      blanks ++ typeArguments ++ blanks ++ "(" ++ blanks ++ size ++ blanks ++ ")"]
  arrayAllocation :=
    ["new" ++ many1 isBlank ++
      anyWord ["int", "long", "double", "float", "short", "byte", "char", "boolean"] ++
      blanks ++ "[" ++ blanks ++ size ++ blanks ++ "]"]
  boxedTypes := ["list<integer>", "list<long>", "list<double>"]
  boxedAccess := [".get(", ".add("]
  concatMarkers := ["+", "concat(", "string.format", "$\x7b"]
  fileMarkers := ["file(", "files.", "paths.get"]
  pathValidation := ["normalize", "getcanonicalpath", "startswith"]
  randomPattern :=
    Pattern.alt ("math.random" ++ blanks ++ "()")
      ("new" ++ many1 isBlank ++ "random" ++ blanks ++ "(")
  commandMarkers := ["runtime.getruntime().exec", "processbuilder"]
  htmlOutput := ["response.getwriter", "printwriter", "servletoutputstream", ".html"]
  externalInput := ["request.getparameter", "request.getheader"]
  escapingMarkers := ["htmlutils", "escapehtml", "encode"]
  messages :=
    [(.inefficientCollectionOps, "Consider parallel stream for large collections"),
      (.sqlInjection, "SQL Injection - Use PreparedStatement instead of string concatenation"),
      (.insecureRandom, "Insecure Random - Use SecureRandom for cryptographic operations")]

end CodeGauge.Lexicon
