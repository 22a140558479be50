import ClientGen.Text.Lines

/-! # Python templates

Templates of the files that make up a Python client package.
-/

namespace ClientGen.Target.Python

/-- The client. -/
def clientTemplate : String := Text.ofLines [
  "# Code generated by sdkgen. DO NOT EDIT.",
  "# Source: \x7b\x7b api.package \x7d\x7d (\x7b\x7b api.apiVersion \x7d\x7d)",
  "",
  "from __future__ import annotations",
  "",
  "import datetime",
  "from typing import Any, Dict, List, Optional",
  "",
  "from ._jsonrpc import JsonRpcClient",
  "from .types import *  # noqa: F401,F403",
  "",
  "",
  "class \x7b\x7b pyClassName(moduleName) \x7d\x7dClient:",
  "    \"\"\"Client for the \x7b\x7b api.package \x7d\x7d API.\"\"\"",
  "",
  "    def __init__(self, endpoint: str, timeout: float = 30.0) -> None:",
  "        self._rpc = JsonRpcClient(endpoint.rstrip(\"/\") + \"\x7b\x7b api.apiPath \x7d\x7d\", timeout=timeout)",
  "\x7b% for method in api.methods %\x7d",
  "",
  "\x7b% if method.returns %\x7d",
  "    def \x7b\x7b pyMethodName(method.name) \x7d\x7d(self\x7b% for p in method.params %\x7d, \x7b\x7b pyIdent(p.name) \x7d\x7d: \x7b\x7b pyType(p.type) \x7d\x7d\x7b% endfor %\x7d) -> \x7b\x7b pyType(method.returns) \x7d\x7d:",
  "\x7b% else %\x7d",
  "    def \x7b\x7b pyMethodName(method.name) \x7d\x7d(self\x7b% for p in method.params %\x7d, \x7b\x7b pyIdent(p.name) \x7d\x7d: \x7b\x7b pyType(p.type) \x7d\x7d\x7b% endfor %\x7d) -> None:",
  "\x7b% endif %\x7d",
  "\x7b% if method.description %\x7d",
  "        \"\"\"\x7b\x7b pyDocstring(method.description) | indent(8) \x7d\x7d\"\"\"",
  "\x7b% endif %\x7d",
  "        params: Dict[str, Any] = \x7b",
  "\x7b% for p in method.params %\x7d",
  "            \"\x7b\x7b p.name \x7d\x7d\": \x7b\x7b pyIdent(p.name) \x7d\x7d,",
  "\x7b% endfor %\x7d",
  "        \x7d",
  "\x7b% if method.returns %\x7d",
  "        return self._rpc.call(\"\x7b\x7b method.name \x7d\x7d\", params)",
  "\x7b% else %\x7d",
  "        self._rpc.call(\"\x7b\x7b method.name \x7d\x7d\", params)",
  "\x7b% endif %\x7d",
  "\x7b% endfor %\x7d"]

/-- The types. -/
def typesTemplate : String := Text.ofLines [
  "# Code generated by sdkgen. DO NOT EDIT.",
  "# Source: \x7b\x7b types.package \x7d\x7d",
  "",
  "from __future__ import annotations",
  "",
  "import datetime",
  "from dataclasses import dataclass",
  "from enum import Enum",
  "from typing import List, Optional",
  "\x7b% for type in types.types %\x7d",
  "",
  "",
  "@dataclass(kw_only=True)",
  "class \x7b\x7b pyClassName(type.name) \x7d\x7d:",
  "\x7b% for field in type.fields %\x7d",
  "    \x7b\x7b pyIdent(field.name) \x7d\x7d: \x7b\x7b pyFieldType(field.type, field.optional, field.list) \x7d\x7d\x7b\x7b \" = None\" if field.optional else \"\" \x7d\x7d",
  "\x7b% else %\x7d",
  "    pass",
  "\x7b% endfor %\x7d",
  "\x7b% endfor %\x7d",
  "\x7b% for enum in types.enums %\x7d",
  "",
  "",
  "class \x7b\x7b pyClassName(enum.name) \x7d\x7d(Enum):",
  "\x7b% for value in enum.values %\x7d",
  "    \x7b\x7b snakeCase(value.name) | upper \x7d\x7d = \x7b\x7b literal(value.value) \x7d\x7d",
  "\x7b% else %\x7d",
  "    pass",
  "\x7b% endfor %\x7d",
  "\x7b% endfor %\x7d"]

/-- The package manifest. -/
def pyprojectTemplate : String := Text.ofLines [
  "[build-system]",
  "requires = [\"setuptools>=68\"]",
  "build-backend = \"setuptools.build_meta\"",
  "",
  "[project]",
  "name = \"\x7b\x7b package \x7d\x7d\"",
  "version = \"\x7b\x7b version \x7d\x7d\"",
  "description = \"\x7b\x7b description if description else \"Generated client for \" ~ name \x7d\x7d\"",
  "requires-python = \">=3.10\"",
  "dependencies = []",
  "",
  "[tool.setuptools]",
  "packages = [\"\x7b\x7b package \x7d\x7d\"]"]

/-- What the package exports. -/
def packageTemplate : String := Text.ofLines [
  "# Code generated by sdkgen. DO NOT EDIT.",
  "",
  "from ._jsonrpc import JsonRpcClient, JsonRpcError",
  "from .client import *  # noqa: F401,F403",
  "from .types import *  # noqa: F401,F403"]

/-- The JSON-RPC transport. -/
def transportTemplate : String := Text.ofLines [
  "# Code generated by sdkgen. DO NOT EDIT.",
  "",
  "import itertools",
  "import json",
  "import urllib.request",
  "from typing import Any, Dict, Optional",
  "",
  "",
  "class JsonRpcError(Exception):",
  "    \"\"\"Error returned by the server in a JSON-RPC response.\"\"\"",
  "",
  "    def __init__(self, code: int, message: str, data: Optional[Any] = None) -> None:",
  "        super().__init__(f\"JsonRpcError(\x7bcode\x7d): \x7bmessage\x7d\")",
  "        self.code = code",
  "        self.message = message",
  "        self.data = data",
  "",
  "",
  "class JsonRpcClient:",
  "    \"\"\"Minimal JSON-RPC 2.0 client over HTTP.\"\"\"",
  "",
  "    def __init__(self, endpoint: str, timeout: float = 30.0) -> None:",
  "        self._endpoint = endpoint",
  "        self._timeout = timeout",
  "        self._ids = itertools.count(1)",
  "",
  "    def call(self, method: str, params: Dict[str, Any]) -> Any:",
  "        body = json.dumps(",
  "            \x7b\"jsonrpc\": \"2.0\", \"id\": next(self._ids), \"method\": method, \"params\": params\x7d",
  "        ).encode(\"utf-8\")",
  "        request = urllib.request.Request(",
  "            self._endpoint,",
  "            data=body,",
  "            headers=\x7b\"Content-Type\": \"application/json\"\x7d,",
  "            method=\"POST\",",
  "        )",
  "        with urllib.request.urlopen(request, timeout=self._timeout) as response:",
  "            decoded = json.loads(response.read().decode(\"utf-8\"))",
  "        error = decoded.get(\"error\")",
  "        if error is not None:",
  "            raise JsonRpcError(error.get(\"code\", 0), error.get(\"message\", \"\"), error.get(\"data\"))",
  "        return decoded.get(\"result\")"]

end ClientGen.Target.Python
