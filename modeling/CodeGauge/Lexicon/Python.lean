import CodeGauge.Lexicon.Basic

/-!
The spellings of Python. Coroutines share one event loop, which takes the place of a main thread.
-/
namespace CodeGauge.Lexicon

open Pattern

def python : Lexicon where
  language := "python"
  loopPattern :=
    Pattern.alt (border ++ "for" ++ border ++ many (· != '\n') ++ border ++ "in" ++ border)
      (border ++ "while" ++ border)
  queryMarkers :=
    ["cursor.execute", "session.query", "session.get(", ".objects.get(", ".objects.filter("]
  chainPairs := [["filter(", "map("], ["map(", "sorted("]]
  chainOps := ["map(", "filter(", "sorted("]
  chainMinOps := 3
  lazyMarkers := ["itertools.", "islice("]
  threadStart := [["thread(", ".start()"]]
  threadStop := [".join("]
  uiMarkers := ["async def"]
  blockingMarkers :=
    ["time.sleep(", "requests.", "urllib.request", "socket.", "subprocess.run(", "open("]
  collectionAllocation :=
    ["[" ++ many (isNoneOf "[]") ++ "]" ++ blanks ++ "*" ++ blanks ++ size]
  arrayAllocation :=
    [Pattern.alt "bytearray"
        (anyWord ["np", "numpy"] ++ "." ++ anyWord ["zeros", "ones", "empty"]) ++
      blanks ++ "(" ++ blanks ++ size]
  concatMarkers := ["+", "%", ".format(", "f\"", "f'"]
  fileMarkers := ["open(", "path(", "os.path.join(", "send_file("]
  pathValidation :=
    ["normpath", "realpath", ".resolve(", "startswith", "is_relative_to", "commonpath"]
  randomPattern :=
    border ++ "random." ++
      anyWord
        ["random", "randint", "randrange", "choice", "choices", "getrandbits", "sample",
          "shuffle", "uniform"] ++
      blanks ++ "("
  commandMarkers := ["os.system(", "os.popen(", "subprocess.", "commands.getoutput("]
  htmlOutput := ["make_response(", "httpresponse(", "render_template_string(", "markup("]
  externalInput :=
    ["request.args", "request.form", "request.get", "request.values", "request.cookies"]
  escapingMarkers := ["escape(", "bleach.", "sanitize"]
  messages :=
    [(.inefficientCollectionOps,
        "Chained map/filter/sorted - Use a single comprehension or generator"),
      (.blockingMainThread,
        "Blocking call inside coroutine - Use an async client or run_in_executor"),
      (.insecureRandom, "Insecure Random - Use the secrets module for tokens and keys")]

end CodeGauge.Lexicon
