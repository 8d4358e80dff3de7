import RequestCode.Piece

/-!
# Clients in Swift
-/

namespace RequestCode.Client.Swift

open Piece

def str (text : String) : Piece := quoted .braced text

def urlSession : Printer := fun r =>
  [code "import Foundation\n"]
  ++ only r.hasHeaders (
    [code "\nlet headers = ["] ++ members "  " .braced r.headers ++ [code "\n]"])
  ++ only r.hasBody [code "\nlet postData = ", str r.body, code ".data(using: .utf8)"]
  ++ [code "\n\nlet request = NSMutableURLRequest(url: NSURL(string: ", str r.fullUrl,
    code ")! as URL,\n",
    code "                                        cachePolicy: .useProtocolCachePolicy,\n",
    code "                                    timeoutInterval: 10.0)\nrequest.httpMethod = ",
    str r.method]
  ++ only r.hasHeaders [code "\nrequest.allHTTPHeaderFields = headers"]
  ++ only r.hasBody [code "\nrequest.httpBody = postData"]
  ++ [code "\n\nlet session = URLSession.shared\n",
    code "let dataTask = session.dataTask(with: request as URLRequest, completionHandler: ",
    code "\x7b (data, response, error) -> Void in\n  if (error != nil) \x7b\n",
    code "    print(error as Any)\n  \x7d else \x7b\n",
    code "    let httpResponse = response as? HTTPURLResponse\n",
    code "    print(httpResponse as Any)\n  \x7d\n\x7d)\n\ndataTask.resume()\n"]

end RequestCode.Client.Swift
