import CodeGauge.Lexicon.Basic

/-!
The spellings of Kotlin.
-/
namespace CodeGauge.Lexicon

open Pattern

def kotlin : Lexicon where
  language := "kotlin"
  loopPattern :=
    anyOf
      [border ++ anyWord ["for", "while"] ++ blanks ++ "(",
        ".foreach" ++ border,
        border ++ "repeat" ++ blanks ++ "("]
  iterationCalls := ["forEach", "map"]
  queryMarkers := ["query.execute", "statement.execute", "jdbctemplate.query"]
  chainPairs := [[".filter \x7b", ".map \x7b"], [".map \x7b", ".sortedby"]]
  chainOps := [".filter", ".map", ".sorted", ".distinct"]
  chainMinOps := 3
  lazyMarkers := [".assequence()"]
  threadStart := [["globalscope.launch"], ["globalscope", "thread \x7b"]]
  threadStop := [".join(", ".cancel("]
  uiMarkers := ["dispatchers.main", "runonuithread"]
  blockingMarkers :=
    ["thread.sleep", "inputstream", "outputstream", "httpclient", "file.read", "file.write",
      "runblocking"]
  collectionAllocation :=
    [anyWord
        ["arraylist", "hashmap", "hashset", "linkedhashmap", "arraylistof", "mutablelistof",
          "hashsetof", "hashmapof"] ++
      blanks ++ typeArguments ++ blanks ++ "(" ++ blanks ++ size ++ blanks ++ ")"]
  arrayAllocation :=
    [anyWord ["intarray", "longarray", "doublearray", "floatarray", "bytearray"] ++
      blanks ++ "(" ++ blanks ++ size ++ blanks ++ ")"]
  boxedTypes := ["list<int>", "list<long>", "list<double>"]
  boxedAccess := ["[", ".get("]
  concatMarkers := ["+", "$\x7b"]
  fileMarkers := ["file(", "path(", "tofile"]
  pathValidation := ["normalize", "canonicalpath", "startswith"]
  randomPattern :=
    Pattern.alt
      (check (fun c => !("secure".toList.reverse.isPrefixOf c.behind)) ++ "random" ++ blanks ++
        "()")
      "random.next"
  commandMarkers := ["runtime.getruntime().exec", "processbuilder", "\"sh\"", "\"bash\""]
  htmlOutput := ["response.writer", "respondtext", "html \x7b"]
  externalInput := ["request.parameter", "call.receive", "request.header"]
  escapingMarkers := ["escapehtml", "encode", "sanitize"]
  messages :=
    [(.inefficientCollectionOps, "Use sequence for chained operations on large collections"),
      (.listenerLeak, "Memory leak risk - Subscription not disposed"),
      (.threadLeak, "Coroutine leak - Use structured concurrency instead of GlobalScope"),
      (.blockingMainThread,
        "Blocking operation on main thread - Use withContext(Dispatchers.IO)"),
      (.boxingOverhead, "Boxing overhead - Use IntArray/LongArray for primitives"),
      (.sqlInjection, "SQL Injection - Use parameterized queries or exposed/jooq DSL"),
      (.insecureRandom, "Insecure Random - Use SecureRandom for cryptographic operations"),
      (.crossSiteScripting, "XSS vulnerability - Escape HTML output or use template engine")]

end CodeGauge.Lexicon
