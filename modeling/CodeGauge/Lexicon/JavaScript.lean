import CodeGauge.Lexicon.Basic

/-!
The spellings of JavaScript, which TypeScript shares. Only the forms of `exec` that start a process
count as commands.
-/
namespace CodeGauge.Lexicon

open Pattern

def javascript : Lexicon where
  language := "javascript"
  loopPattern :=
    anyOf
      [border ++ anyWord ["for", "while"] ++ blanks ++ "(",
        border ++ "do" ++ blanks ++ "\x7b",
        ".foreach" ++ blanks ++ "(",
        ".map" ++ blanks ++ "("]
  iterationCalls := ["forEach", "map"]
  queryMarkers := ["db.query(", "connection.query(", "pool.query(", ".findone(", ".findbypk("]
  chainPairs := [[".filter(", ".map("], [".map(", ".sort("]]
  chainOps := [".filter(", ".map(", ".sort(", ".reduce("]
  chainMinOps := 3
  listenerAdd := ["addeventlistener(", ".subscribe(", "subscribe"]
  listenerRemove := ["removeeventlistener(", "unsubscribe", "dispose", ".off("]
  threadStart := [["setinterval("]]
  threadStop := ["clearinterval("]
  uiMarkers := ["async ", "addeventlistener("]
  blockingMarkers :=
    ["readfilesync(", "writefilesync(", "execsync(", "spawnsync(", "atomics.wait("]
  collectionAllocation :=
    [Pattern.alt ("new" ++ many1 isBlank ++ "array" ++ blanks ++ "(")
        ("array.from" ++ blanks ++ "(" ++ blanks ++ "\x7b" ++ blanks ++ "length" ++ blanks ++
          ":") ++
      blanks ++ size]
  arrayAllocation :=
    ["new" ++ many1 isBlank ++
      anyWord
        ["int8", "uint8", "uint8clamped", "int16", "uint16", "int32", "uint32", "float32",
          "float64", "bigint64", "biguint64"] ++
      "array" ++ blanks ++ "(" ++ blanks ++ size ++ blanks ++ ")"]
  concatMarkers := ["+", "$\x7b", ".concat("]
  fileMarkers := ["fs.", "readfile", "createreadstream(", "path.join(", "sendfile("]
  pathValidation := ["path.normalize", "path.resolve", "startswith", "realpath"]
  randomPattern := "math.random" ++ blanks ++ "("
  commandMarkers :=
    ["child_process.", "cp.exec(", "cp.spawn(", "execsync(", "spawnsync(", "execfile(",
      "execfilesync("]
  htmlOutput := ["innerhtml", "outerhtml", "document.write(", "insertadjacenthtml(", "res.send("]
  externalInput :=
    ["req.query", "req.params", "req.body", "location.", "document.cookie", ".value"]
  escapingMarkers := ["escape", "encodeuricomponent(", "sanitize", "dompurify", "textcontent"]
  messages :=
    [(.threadLeak, "Timer leak - setInterval without clearInterval"),
      (.blockingMainThread, "Synchronous I/O on the event loop - Use the async API"),
      (.insecureRandom, "Insecure Random - Use crypto.getRandomValues or crypto.randomUUID")]

def typescript : Lexicon :=
  { javascript with language := "typescript" }

end CodeGauge.Lexicon
